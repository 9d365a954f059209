import LintBridge.Document.Store
import LintBridge.Linter.Run
import LintBridge.Locator.Basic
import LintBridge.Report.Diagnostic

/-!
# The hub

The hub keeps the diagnostics that the editor shows in step with what happens to documents. Every
trigger takes the next number of its document, its generation, and starts a task. The tasks for one
document take turns, and a task shows its result only while its generation is still the latest. So a
newer event always wins, whichever task ends first.

The generation and the turn of a document are kept in a slot. When a document is closed and nothing
new has happened to it, its slot is forgotten; the next event makes a new one.

## Main definitions

* `Slot` — the generation and the turn of a document.
* `Stage`, `Task` — a task, and how far it has come.
* `Timer` — a delay before a document that was edited is linted.
* `Hub` — everything together.
* `Hub.begin` — starts a task.
-/

namespace LintBridge

/-- The generation and the turn of a document. -/
structure Slot where
  id : Nat
  /-- The number of the latest trigger. -/
  generation : Nat
  /-- The task whose turn it is. -/
  holder : Option Nat
  deriving DecidableEq, Repr

/-- How far a task has come. -/
inductive Stage where
  /-- The task waits for its turn. -/
  | queued
  /-- It is the task's turn, and its generation is about to be compared. -/
  | admitted
  /-- The document is about to be looked up. -/
  | looking
  /-- The document is not linted, and its diagnostics are about to be taken away. -/
  | clearing
  /-- The folders are about to be looked up. -/
  | gathering (document : Document)
  /-- The executable is being located. -/
  | locating (document : Document) (folders : List Path) (stage : LocateStage)
  /-- The linter is about to be started. -/
  | equipped (document : Document) (folders : List Path) (executable : String)
  /-- The linter runs. -/
  | running (job : LintJob) (target : LintTarget)
  /-- The linter has ended, and the generation is about to be compared again. -/
  | judging (target : LintTarget) (outcome : Outcome)
  /-- The outcome is about to be compared with the last failure. -/
  | recording (target : LintTarget) (outcome : Outcome)
  /-- A failure is about to be shown. -/
  | complaining (target : LintTarget) (outcome : Outcome) (message : String)
  /-- The diagnostics are about to be shown. -/
  | publishing (target : LintTarget) (outcome : Outcome)
  /-- The document was closed, and its diagnostics are about to be taken away. -/
  | deleting
  /-- The slot is about to be forgotten. -/
  | forgetting
  deriving DecidableEq, Repr

/-- What a task is for. -/
inductive Work where
  /-- To lint a document and show what is found. -/
  | refresh
  /-- To take the diagnostics of a closed document away. -/
  | delete
  deriving DecidableEq, Repr

/-- A task. -/
structure Task where
  id : Nat
  uri : Uri
  work : Work
  slot : Nat
  generation : Nat
  stage : Stage
  deriving DecidableEq, Repr

/-- A delay before a document that was edited is linted. -/
structure Timer where
  id : Nat
  uri : Uri
  /-- The version that the edit made. -/
  version : Int
  /-- Whether the delay is over and the version was found to be the current one. -/
  isDue : Bool
  deriving DecidableEq, Repr

/-- How long a document has to be left alone before it is linted, in milliseconds. -/
def Timer.delay : Nat := 300

/-- Whether a delay that began at some time is over at another, both in milliseconds. -/
def Timer.isOver (began now : Nat) : Bool := began + delay < now

/-- The hub. -/
structure Hub where
  documents : Documents
  /-- The workspace folders. -/
  folders : List Path
  locator : Locator
  /-- The slots that were ever made. -/
  slots : List Slot
  /-- The slots in use. -/
  registry : List (Uri × Nat)
  /-- The tasks that have not ended. -/
  tasks : List Task
  timers : List Timer
  /-- The failure that was shown last, unless a run has succeeded since. -/
  lastFailure : Option String
  /-- How many tasks there have been. -/
  nextTask : Nat
  /-- How many timers there have been. -/
  nextTimer : Nat

namespace Hub

/-- A hub in the beginning. -/
def ofSettings (settings : SettingsStore) : Hub where
  documents := .empty
  folders := []
  locator := .ofSettings settings
  slots := []
  registry := []
  tasks := []
  timers := []
  lastFailure := none
  nextTask := 0
  nextTimer := 0

/-- The settings in force. -/
def settings (h : Hub) : Settings := h.locator.settings.current

/-! ### Slots -/

/-- The slot with an identity. -/
def slot? (h : Hub) (id : Nat) : Option Slot := h.slots.find? fun s => s.id = id

/-- Changes the slot with an identity. -/
def changeSlot (h : Hub) (id : Nat) (f : Slot → Slot) : Hub :=
  { h with slots := h.slots.map fun s => if s.id = id then f s else s }

/-- The hub with a slot for a document, and the identity of that slot. -/
def withSlot (h : Hub) (uri : Uri) : Hub × Nat :=
  match h.registry.lookup uri with
  | some id => (h, id)
  | none =>
    let id := h.slots.length
    ({ h with
      slots := h.slots ++ [⟨id, 0, none⟩]
      registry := (uri, id) :: h.registry }, id)

/-- Whether a generation is the latest one of a slot. -/
def isCurrent (h : Hub) (slot generation : Nat) : Bool :=
  (h.slot? slot).map Slot.generation = some generation

/-- Lets a task have the turn of its slot. -/
def giveTurn (h : Hub) (slot task : Nat) : Hub :=
  h.changeSlot slot fun s => { s with holder := some task }

/-- Whether nobody has the turn of a slot. -/
def isFree (h : Hub) (slot : Nat) : Bool :=
  match h.slot? slot with
  | some s => s.holder.isNone
  | none => false

/-- Forgets the slot of a document, unless a newer event has used it or has made another one. -/
def forget (h : Hub) (uri : Uri) (slot generation : Nat) : Hub :=
  if h.isCurrent slot generation ∧ h.registry.lookup uri = some slot then
    { h with registry := h.registry.filter fun (u, _) => u ≠ uri }
  else h

/-! ### Tasks -/

/-- The task with an identity. -/
def task? (h : Hub) (id : Nat) : Option Task := h.tasks.find? fun t => t.id = id

/-- Lets a task come to another stage. -/
def moveTo (h : Hub) (id : Nat) (stage : Stage) : Hub :=
  { h with tasks := h.tasks.map fun t => if t.id = id then { t with stage := stage } else t }

/-- Ends a task and its turn. -/
def finish (h : Hub) (task : Task) : Hub :=
  { h.changeSlot task.slot fun s => { s with holder := none } with
    tasks := h.tasks.filter fun t => t.id ≠ task.id }

/-- Starts a task for a document: it gets the next generation. -/
def begin (h : Hub) (uri : Uri) (work : Work) : Hub :=
  let (h, slot) := h.withSlot uri
  let h := h.changeSlot slot fun s => { s with generation := s.generation + 1 }
  let generation := ((h.slot? slot).map Slot.generation).getD 0
  { h with
    tasks := h.tasks ++ [⟨h.nextTask, uri, work, slot, generation, .queued⟩]
    nextTask := h.nextTask + 1 }

/-- Starts a task for each open document. -/
def refreshAll (h : Hub) : Hub := h.documents.uris.foldl (fun h uri => h.begin uri .refresh) h

/-! ### Timers -/

/-- Starts a delay for a version of a document. -/
def startTimer (h : Hub) (uri : Uri) (version : Int) : Hub :=
  { h with
    timers := h.timers ++ [⟨h.nextTimer, uri, version, false⟩]
    nextTimer := h.nextTimer + 1 }

/-- The timer with an identity. -/
def timer? (h : Hub) (id : Nat) : Option Timer := h.timers.find? fun t => t.id = id

/-- Takes a timer away. -/
def dropTimer (h : Hub) (id : Nat) : Hub :=
  { h with timers := h.timers.filter fun t => t.id ≠ id }

/-- Whether a version of a document is the one that is open. -/
def isOpenAt (h : Hub) (uri : Uri) (version : Int) : Bool :=
  (h.documents.get? uri).map Document.version = some version

end Hub

end LintBridge
