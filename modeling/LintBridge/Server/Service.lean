import LintBridge.Server.Greeting
import LintBridge.Server.Message
import LintBridge.Server.Question

/-!
# The service

The service takes the messages of the editor one after another. It says what is answered at once,
and what is to be done because of a message. An editor first connects; then its notifications count
and its requests are answered; when it has asked for the end, notifications are dropped and requests
refused; after it has left, no message is taken any more.

## Main definitions

* `Phase` — how far the editor has come.
* `Method`, `Method.ofName?` — what can be asked for or told, by name.
* `Deed` — what is to be done because of a message.
* `Service.react` — what a message leads to.
-/

namespace LintBridge

/-- How far the editor has come. -/
inductive Phase where
  /-- The editor has not connected. -/
  | fresh
  | ready
  /-- The editor has asked for the end. -/
  | closing
  /-- The editor has left. -/
  | left
  deriving DecidableEq, Repr

/-- What can be asked for or told. -/
inductive Method where
  /-- The editor connects. -/
  | connect
  /-- The editor asks for the end. -/
  | close
  /-- The editor leaves. -/
  | leave
  /-- The editor gives a request up; all requests are answered at once, so this comes too late. -/
  | cancel
  /-- The editor tells something. -/
  | notice (form : Form Notice)
  /-- The editor asks something to which there is no answer. -/
  | question (form : Form Unit)

namespace Method

/-- The name of the notification that another document has come into focus. -/
def focusName : String := "protolens/didChangeActiveDocument"

/-- The notifications that are heeded, with the forms of their parameters. -/
def notices : List (String × Form Notice) :=
  [("initialized", Notice.connection),
    ("textDocument/didOpen", Notice.opened),
    ("textDocument/didChange", Notice.changed),
    ("textDocument/didSave", Notice.saved),
    ("textDocument/didClose", Notice.closed),
    ("workspace/didChangeConfiguration", Notice.configured),
    ("workspace/didChangeWorkspaceFolders", Notice.foldersChanged),
    (focusName, Notice.focused)]

/-- The method of a name, if the name is known. -/
def ofName? (name : String) : Option Method :=
  match name with
  | "initialize" => some connect
  | "shutdown" => some close
  | "exit" => some leave
  | "$/cancelRequest" => some cancel
  | _ =>
    match notices.lookup name with
    | some form => some (notice form)
    | none =>
      if name ∈ Remark.table then some (notice fun _ => some .nothing)
      else (Question.table.lookup name).map question

/-- Whether a name is one that may be left unheeded without a word. -/
def isMinor (name : String) : Bool := "$/".toList.isPrefixOf name.toList

end Method

/-- What is to be done because of a message. -/
inductive Deed where
  /-- The editor has connected. -/
  | connect (c : Connection)
  /-- The editor is told that it is connected. -/
  | welcome
  /-- Something happens at the hub. -/
  | event (e : HubEvent)

/-- What a message leads to. -/
structure Reaction where
  /-- The phase after the message. -/
  phase : Phase
  reply : Option Reply
  deed : Option Deed

namespace Service

/-- Nothing happens. -/
def ignore (phase : Phase) : Reaction := ⟨phase, none, none⟩

/-- A request is refused; a notification is dropped. -/
def refuse (phase : Phase) (m : Message) (fault : Fault) : Reaction :=
  ⟨phase, m.id.map fun id => ⟨id, .error fault⟩, none⟩

/-- Why a request is refused in a phase, unless requests are taken in it. -/
def refusal? : Phase → Option Fault
  | .fresh => some .notConnected
  | .ready => none
  | .closing => some .invalidRequest
  | .left => some .invalidRequest

/-- The editor connects. Unless its parameters are bad, it is ready then. -/
def connect (phase : Phase) (m : Message) : Reaction :=
  match phase, m.id with
  | .fresh, some id =>
    match m.params.bind Connection.form with
    | some c => ⟨.ready, some ⟨id, .ok Server.greeting⟩, some (.connect c)⟩
    | none => refuse .fresh m .invalidParams
  | .fresh, none => ignore .fresh
  | phase, _ => refuse phase m .invalidRequest

/-- The editor asks for the end. This takes no parameters. -/
def close (phase : Phase) (m : Message) : Reaction :=
  match refusal? phase with
  | some fault => refuse phase m fault
  | none =>
    match m.params with
    | some _ => refuse .closing m .invalidParams
    | none => ⟨.closing, m.id.map fun id => ⟨id, .ok .null⟩, none⟩

/-- What is to be done because of a notice. -/
def deed? : Notice → Option Deed
  | .connected => some .welcome
  | .event e => some (.event e)
  | .nothing => none

/-- The editor tells something. Bad parameters make it unheard. -/
def notice (phase : Phase) (m : Message) (form : Form Notice) : Reaction :=
  match refusal? phase with
  | some fault => refuse phase m fault
  | none =>
    match m.id with
    | some _ => refuse phase m .invalidRequest
    | none => ⟨phase, none, (m.params.bind form).bind deed?⟩

/-- The editor asks something to which there is no answer. -/
def question (phase : Phase) (m : Message) (form : Form Unit) : Reaction :=
  match refusal? phase with
  | some fault => refuse phase m fault
  | none =>
    match m.params.bind form with
    | some _ => refuse phase m .unsupportedMethod
    | none => refuse phase m .invalidParams

/-- A name that is not known: a request is refused, unless the name is a minor one. -/
def unknown (phase : Phase) (m : Message) : Reaction :=
  if Method.isMinor m.method then ignore phase else refuse phase m (.unknownMethod m.method)

/-- What a message leads to. After the editor has left, messages lead to nothing. -/
def react (phase : Phase) (m : Message) : Reaction :=
  if phase = .left then ignore .left
  else
    match Method.ofName? m.method with
    | none => unknown phase m
    | some .connect => connect phase m
    | some .close => close phase m
    | some .leave => ignore .left
    | some .cancel => refuse phase m .invalidRequest
    | some (.notice form) => notice phase m form
    | some (.question form) => question phase m form

end Service

end LintBridge
