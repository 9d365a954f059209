import LintBridge.Document.Basic

/-!
# The open documents

The editor tells when a document is opened, changed, saved and closed. Each of these carries what
the editor has at that moment, so the store keeps no history.

## Main definitions

* `DocumentEvent` — what the editor tells of a document.
* `Documents` — the open documents.
* `Documents.apply` — the documents after an event.
* `Documents.trigger` — what the event calls for.
-/

namespace LintBridge

/-- What the editor tells of a document. -/
inductive DocumentEvent where
  | opened (uri : Uri) (languageId : String) (version : Int) (text : String)
  /-- Each of the texts is the whole document; the last one counts. -/
  | changed (uri : Uri) (version : Int) (texts : List String)
  | saved (uri : Uri) (text : Option String)
  | closed (uri : Uri)
  deriving DecidableEq, Repr

/-- The document that an event is about. -/
def DocumentEvent.uri : DocumentEvent → Uri
  | .opened uri _ _ _ => uri
  | .changed uri _ _ => uri
  | .saved uri _ => uri
  | .closed uri => uri

/-- The open documents, in the order in which they were first opened. -/
structure Documents where
  entries : List (Uri × Document)
  deriving DecidableEq, Repr

namespace Documents

/-- No documents. -/
def empty : Documents := ⟨[]⟩

/-- The first entry for an address. -/
def lookup (uri : Uri) : List (Uri × Document) → Option Document
  | [] => none
  | (u, d) :: rest => if u = uri then some d else lookup uri rest

/-- Gives an address a document, in the place of any that it had. -/
def insertIn (uri : Uri) (document : Document) : List (Uri × Document) → List (Uri × Document)
  | [] => [(uri, document)]
  | (u, d) :: rest =>
    if u = uri then (u, document) :: rest else (u, d) :: insertIn uri document rest

/-- The document at an address. -/
def get? (ds : Documents) (uri : Uri) : Option Document := lookup uri ds.entries

/-- Gives an address a document. -/
def insert (ds : Documents) (uri : Uri) (document : Document) : Documents :=
  ⟨insertIn uri document ds.entries⟩

/-- Takes the document at an address away. -/
def erase (ds : Documents) (uri : Uri) : Documents :=
  ⟨ds.entries.filter fun (u, _) => u ≠ uri⟩

/-- The addresses of the documents. -/
def uris (ds : Documents) : List Uri := ds.entries.map Prod.fst

/-- The document after a change to `text`. A document that was never opened has no language. -/
def edited (d : Option Document) (version : Int) (text : String) : Document where
  text := text
  version := version
  languageId := (d.map Document.languageId).getD ""
  isDirty := true

/-- The document after it was saved, perhaps with its text told again. -/
def stored (d : Document) (text : Option String) : Document :=
  { d with text := text.getD d.text, isDirty := false }

/-- The documents after an event. -/
def apply (ds : Documents) : DocumentEvent → Documents
  | .opened uri languageId version text => ds.insert uri ⟨text, version, languageId, false⟩
  | .changed uri version texts =>
    match texts.getLast? with
    | some text => ds.insert uri (edited (ds.get? uri) version text)
    | none => ds
  | .saved uri text =>
    match ds.get? uri with
    | some d => ds.insert uri (stored d text)
    | none => ds
  | .closed uri => ds.erase uri

/-- What an event calls for. -/
inductive Trigger where
  /-- Lint the document at once. -/
  | refresh (uri : Uri)
  /-- Lint the document when it has not been edited for a while. -/
  | debounce (uri : Uri) (version : Int)
  /-- Take the diagnostics of the document away. -/
  | delete (uri : Uri)
  deriving DecidableEq, Repr

/-- What an event calls for, in the documents after it. Saving a document that is not linted, or one
that is not open, calls for nothing. -/
def trigger (ds : Documents) : DocumentEvent → Option Trigger
  | .opened uri _ _ _ => some (.refresh uri)
  | .changed uri version texts => if texts = [] then none else some (.debounce uri version)
  | .saved uri _ =>
    match ds.get? uri with
    | some d => if d.isTarget uri then some (.refresh uri) else none
    | none => none
  | .closed uri => some (.delete uri)

end Documents

end LintBridge
