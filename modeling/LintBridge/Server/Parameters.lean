import LintBridge.Hub.Step
import LintBridge.Server.Abilities

/-!
# Parameters

The forms of the parameters that the server makes use of.

## Main definitions

* `Connection`, `Connection.form` — what the editor tells of itself when it connects.
* `Notice` — what a notification says.
* `Notice.opened`, `Notice.changed`, … — the forms of the notifications.
-/

namespace LintBridge

namespace Form

/-- A place in a text. -/
def position : Form Unit :=
  record do
    let _ ← PartForm.required "line" unsigned
    let _ ← PartForm.required "character" unsigned

/-- A stretch of a text. -/
def range : Form Unit :=
  record do
    PartForm.required "start" position
    PartForm.required "end" position

/-- The address of a document, in a record of its own. -/
def document : Form Uri := record (PartForm.required "uri" uri)

/-- The address of a document and the number of its text. -/
def versioned : Form (Uri × Int) :=
  record do
    let address ← PartForm.required "uri" uri
    let version ← PartForm.required "version" signed
    return (address, version)

/-- A change to a document: its new text. -/
def change : Form String :=
  record do
    let _ ← PartForm.nullable "range" range
    let _ ← PartForm.nullable "rangeLength" unsigned
    PartForm.required "text" text

/-- The address of a workspace folder that has a name. -/
def folder : Form Uri :=
  record do
    let address ← PartForm.required "uri" uri
    let _ ← PartForm.required "name" text
    return address

end Form

/-- What the editor tells of itself when it connects. -/
structure Connection where
  folders : Option (List Uri)
  root : Option Uri
  options : Option Json

namespace Connection

/-- The program that the editor is. -/
def client : Form Unit :=
  .record do
    let _ ← PartForm.required "name" Form.text
    let _ ← PartForm.nullable "version" Form.text

/-- Reads the parameters of the first request. -/
def form : Form Connection :=
  .record do
    let _ ← PartForm.nullable "processId" Form.unsigned
    let _ ← PartForm.nullable "rootPath" Form.text
    let root ← PartForm.omissible "rootUri" Form.uri
    let options ← PartForm.nullable "initializationOptions" Form.any
    PartForm.required "capabilities" Abilities.form
    let _ ← PartForm.omissible "trace" (Form.variant ["off", "messages", "verbose"])
    let folders ← PartForm.nullable "workspaceFolders" (Form.list Form.folder)
    let _ ← PartForm.nullable "clientInfo" client
    let _ ← PartForm.nullable "locale" Form.text
    return ⟨folders, root, options⟩

end Connection

/-- What a notification says. -/
inductive Notice where
  /-- The editor is connected. -/
  | connected
  /-- Something happened at the hub. -/
  | event (e : HubEvent)
  /-- Nothing that matters. -/
  | nothing

namespace Notice

/-- The notice of a document. -/
def ofDocument (e : DocumentEvent) : Notice := .event (.document e)

/-- The editor is connected; nothing is told with it. -/
def connection : Form Notice := .record (return .connected)

/-- A document was opened. -/
def opened : Form Notice :=
  .record do
    let event ← PartForm.required "textDocument" (.record do
      let uri ← PartForm.required "uri" Form.uri
      let languageId ← PartForm.required "languageId" Form.text
      let version ← PartForm.required "version" Form.signed
      let text ← PartForm.required "text" Form.text
      return DocumentEvent.opened uri languageId version text)
    return ofDocument event

/-- A document was changed. -/
def changed : Form Notice :=
  .record do
    let (uri, version) ← PartForm.required "textDocument" Form.versioned
    let texts ← PartForm.required "contentChanges" (Form.list Form.change)
    return ofDocument (.changed uri version texts)

/-- A document was saved. -/
def saved : Form Notice :=
  .record do
    let uri ← PartForm.required "textDocument" Form.document
    let text ← PartForm.nullable "text" Form.text
    return ofDocument (.saved uri text)

/-- A document was closed. -/
def closed : Form Notice :=
  .record do
    let uri ← PartForm.required "textDocument" Form.document
    return ofDocument (.closed uri)

/-- Another document has come into focus. -/
def focused : Form Notice :=
  .record do
    let uri ← PartForm.required "uri" Form.uri
    return .event (.focus uri)

/-- The settings of the editor were changed. -/
def configured : Form Notice :=
  .record do
    let settings ← PartForm.required "settings" Form.any
    return .event (.configure settings)

/-- Workspace folders were opened and closed. -/
def foldersChanged : Form Notice :=
  .record do
    let (added, removed) ← PartForm.required "event" (.record do
      let added ← PartForm.required "added" (Form.list Form.folder)
      let removed ← PartForm.required "removed" (Form.list Form.folder)
      return (added, removed))
    return .event (.folders added removed)

end Notice

end LintBridge
