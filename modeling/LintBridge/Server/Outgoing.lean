import LintBridge.Hub.Step
import LintBridge.Server.Message

/-!
# What is sent to the editor

What is seen of the hub from outside reaches the editor as requests and notifications. The editor's
answers to the requests mean something only if they have the right shape; any other answer counts as
a dismissal.

## Main definitions

* `Outgoing` — a request or a notification for the editor.
* `Outgoing.ofOutput?` — how an output of the hub is sent.
* `Outgoing.choice?`, `Outgoing.pick?` — what the editor's answers mean.
-/

namespace LintBridge

/-- A place as it is sent. -/
def Position.toJson (p : Position) : Json :=
  .ofFields [("line", .ofNat p.line), ("character", .ofNat p.character)]

/-- A range as it is sent. -/
def Range.toJson (r : Range) : Json :=
  .ofFields [("start", r.start.toJson), ("end", r.stop.toJson)]

/-- A diagnostic as it is sent. -/
def Diagnostic.toJson (d : Diagnostic) : Json :=
  .ofFields [("message", .str d.message), ("range", d.range.toJson),
    ("severity", .ofNat severity), ("source", .str source)]

/-- A request or a notification for the editor. -/
structure Outgoing where
  method : String
  /-- Whether an answer is wanted. -/
  isRequest : Bool
  params : Json

namespace Outgoing

/-! ### Methods -/

/-- Replaces the diagnostics of a document. -/
def publishMethod : String := "textDocument/publishDiagnostics"

/-- Shows a warning with actions. -/
def warningMethod : String := "window/showMessageRequest"

/-- Lets the user pick a file. -/
def pickMethod : String := "protolens/pickExecutable"

/-- How serious a message to the user is. -/
inductive Weight where
  | error
  | warning
  | info

/-- The protocol's number for a weight. -/
def Weight.number : Weight → Nat
  | error => 1
  | warning => 2
  | info => 3

/-- A text of some weight. -/
def weighted (w : Weight) (text : String) : List (String × Json) :=
  [("type", .ofNat w.number), ("message", .str text)]

/-! ### Messages -/

/-- The editor is told that it is connected. -/
def welcome : Outgoing :=
  ⟨"window/logMessage", false, .ofFields (weighted .info "protolens LSP server initialized")⟩

/-- The user is told of a failure. -/
def complaint (text : String) : Outgoing :=
  ⟨"window/showMessage", false, .ofFields (weighted .error text)⟩

/-- An action of a warning. -/
def actionJson (title : String) : Json := .ofFields [("title", .str title)]

/-- The user is shown something on the way to an executable. -/
def ofPrompt : Prompt → Outgoing
  | .warning =>
    ⟨warningMethod, true, .ofFields (weighted .warning Prompt.warningText ++
      [("actions", .arr [actionJson Prompt.downloadAction, actionJson Prompt.findAction])])⟩
  | .picker => ⟨pickMethod, true, .ofFields [("openLabel", .str Prompt.pickLabel)]⟩
  | .regret => complaint Prompt.regretText
  | .page =>
    ⟨"window/showDocument", true, .ofFields [("uri", .str Executable.homepage),
      ("external", .bool true), ("takeFocus", .bool true)]⟩

/-- The diagnostics of a document are replaced. No version is named when they are taken away. -/
def publication (uri : Uri) (diagnostics : List Diagnostic) (version : Option Int) : Outgoing :=
  ⟨publishMethod, false, .ofFields ([("uri", .str uri.text),
    ("diagnostics", .arr (diagnostics.map Diagnostic.toJson))] ++
    (version.map fun v => ("version", Json.int v)).toList)⟩

/-- How an output of the hub is sent. That the linter was started is not told. -/
def ofOutput? : HubOutput → Option Outgoing
  | .started _ _ _ => none
  | .prompted _ prompt => some (ofPrompt prompt)
  | .complained _ message => some (complaint message)
  | .published _ uri diagnostics version => some (publication uri diagnostics version)

/-- A message as it is sent; the number is for the answer to a request. -/
def toJson (o : Outgoing) (number : Nat) : Json :=
  .ofFields
    ([("jsonrpc", .str Message.protocol), ("method", .str o.method), ("params", o.params)] ++
    if o.isRequest then [("id", .ofNat number)] else [])

/-! ### Answers -/

/-- The title of the action that an answer to a warning names. -/
def choice? (result : Json) : Option String := (result.get? "title").bind Json.text?

/-- The path that an answer to a file picker names. An empty one is none. -/
def pick? (result : Json) : Option String :=
  match result.text? with
  | some "" => none
  | path => path

end Outgoing

end LintBridge
