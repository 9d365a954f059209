import LintBridge.Hub.Basic
import LintBridge.Workspace.Folders

/-!
# What happens at the hub

The editor tells what it does, timers run out, and tasks take their steps. These events may come in
any order. What a task needs to know of the world outside comes with its event as an answer.

## Main definitions

* `HubEvent` — what can happen.
* `HubOutput` — what is seen of it from outside.
* `Hub.step?` — the hub after an event.
-/

namespace LintBridge

/-- What can happen at the hub. -/
inductive HubEvent where
  /-- The editor tells of a document. -/
  | document (e : DocumentEvent)
  /-- Another document has come into focus. -/
  | focus (uri : Uri)
  /-- The editor sends its settings. -/
  | configure (payload : Json)
  /-- The editor opens and closes workspace folders. -/
  | folders (added removed : List Uri)
  /-- The delay of a timer is over, and the version of its document is compared. -/
  | elapse (timer : Nat)
  /-- A timer that is due starts its task. -/
  | fire (timer : Nat)
  /-- A task takes a step. -/
  | advance (task : Nat) (answer : Answer)

/-- What is seen from outside. -/
inductive HubOutput where
  /-- A task starts the linter. -/
  | started (task : Nat) (job : LintJob) (target : LintTarget)
  /-- The user is shown something on the way to an executable. -/
  | prompted (task : Nat) (prompt : Prompt)
  /-- The user is told of a failure. -/
  | complained (task : Nat) (message : String)
  /-- The diagnostics of a document are replaced. -/
  | published (task : Nat) (uri : Uri) (diagnostics : List Diagnostic) (version : Option Int)
  deriving DecidableEq, Repr

namespace Hub

/-! ### What the editor tells -/

/-- Does what an event of a document calls for. -/
def pull (h : Hub) : Documents.Trigger → Hub
  | .refresh uri => h.begin uri .refresh
  | .debounce uri version => if h.settings.lintOnChange then h.startTimer uri version else h
  | .delete uri => h.begin uri .delete

/-- The hub after an event of a document. -/
def applyDocument (h : Hub) (e : DocumentEvent) : Hub :=
  let h := { h with documents := h.documents.apply e }
  match h.documents.trigger e with
  | some trigger => h.pull trigger
  | none => h

/-- The hub after another document has come into focus. -/
def applyFocus (h : Hub) (uri : Uri) : Hub :=
  if (h.documents.get? uri).isSome then h.begin uri .refresh else h

/-- The hub with other settings of the editor. -/
def updateClient (h : Hub) (payload : Json) : Hub :=
  { h with locator := { h.locator with settings := h.locator.settings.updateClient payload } }

/-- The hub after the editor has sent its settings: what was remembered of the executable is gone,
and all documents are linted again. -/
def applyConfiguration (h : Hub) (payload : Json) : Hub :=
  let h := h.updateClient payload
  { h with locator := { h.locator with cache := none } }.refreshAll

/-! ### Steps of tasks -/

/-- The diagnostics for an outcome. -/
def diagnosticsOf (target : LintTarget) (outcome : Outcome) : List Diagnostic :=
  (outcome.findings target.text).map .ofFinding

/-- How the linter is used for a run. -/
def jobFor (settings : Settings) (executable : String) (folders : List Path) : LintJob :=
  ⟨executable, folders, settings.passConfigDir, settings.timeout⟩

/-- The hub and the task's next stage after the outcome of a run was compared with the last failure.
A failure of the tool is shown unless the same one was shown last. -/
def record (h : Hub) (target : LintTarget) (outcome : Outcome) : Hub × Stage :=
  match outcome with
  | .toolFailure message =>
    if h.lastFailure = some message then (h, .publishing target outcome)
    else ({ h with lastFailure := some message }, .complaining target outcome message)
  | .transportFailure _ => (h, .publishing target outcome)
  | _ => ({ h with lastFailure := none }, .publishing target outcome)

/-- A step of a task that locates the executable. -/
def stepLocating (h : Hub) (t : Task) (document : Document) (folders : List Path)
    (stage : LocateStage) (answer : Answer) : Option (Hub × List HubOutput) :=
  match stage with
  | .done (some executable) =>
    some (h.moveTo t.id (.equipped document folders executable), [])
  | .done none => some (h.finish t, [])
  | stage =>
    match h.locator.step? t.id folders.head? stage answer with
    | some (locator, stage, prompts) =>
      some ({ h with locator := locator }.moveTo t.id (.locating document folders stage),
        prompts.map (.prompted t.id))
    | none => none

/-- A step of a task. -/
def stepTask (h : Hub) (t : Task) (answer : Answer) : Option (Hub × List HubOutput) :=
  match t.stage with
  | .queued =>
    if h.isFree t.slot then some ((h.giveTurn t.slot t.id).moveTo t.id .admitted, []) else none
  | .admitted =>
    if h.isCurrent t.slot t.generation then
      some (h.moveTo t.id (match t.work with
        | .refresh => .looking
        | .delete => .deleting), [])
    else some (h.finish t, [])
  | .looking =>
    match h.documents.get? t.uri with
    | none => some (h.finish t, [])
    | some d =>
      some (h.moveTo t.id (if d.isTarget t.uri then .gathering d else .clearing), [])
  | .clearing => some (h.finish t, [.published t.id t.uri [] none])
  | .gathering d => some (h.moveTo t.id (.locating d h.folders .starting), [])
  | .locating d folders stage => h.stepLocating t d folders stage answer
  | .equipped d folders executable =>
    let job := jobFor h.settings executable folders
    let target := d.target t.uri
    some (h.moveTo t.id (.running job target), [.started t.id job target])
  | .running _ target =>
    match answer with
    | .outcome o => some (h.moveTo t.id (.judging target o), [])
    | _ => none
  | .judging target outcome =>
    if h.isCurrent t.slot t.generation then some (h.moveTo t.id (.recording target outcome), [])
    else some (h.finish t, [])
  | .recording target outcome =>
    let (h, stage) := h.record target outcome
    some (h.moveTo t.id stage, [])
  | .complaining target outcome message =>
    some (h.moveTo t.id (.publishing target outcome), [.complained t.id message])
  | .publishing target outcome =>
    some (h.finish t,
      [.published t.id t.uri (diagnosticsOf target outcome) (some target.version)])
  | .deleting => some (h.moveTo t.id .forgetting, [.published t.id t.uri [] none])
  | .forgetting => some ((h.forget t.uri t.slot t.generation).finish t, [])

/-! ### Events -/

/-- The hub after an event, and what is seen of it from outside. None if the event cannot happen. -/
def step? (h : Hub) : HubEvent → Option (Hub × List HubOutput)
  | .document e => some (h.applyDocument e, [])
  | .focus uri => some (h.applyFocus uri, [])
  | .configure payload => some (h.applyConfiguration payload, [])
  | .folders added removed =>
    some ({ h with folders := Workspace.changeFolders h.folders added removed }, [])
  | .elapse timer =>
    match h.timer? timer with
    | some t =>
      if t.isDue then none
      else if h.isOpenAt t.uri t.version then
        some ({ h with timers := h.timers.map fun u =>
          if u.id = timer then { u with isDue := true } else u }, [])
      else some (h.dropTimer timer, [])
    | none => none
  | .fire timer =>
    match h.timer? timer with
    | some t => if t.isDue then some ((h.dropTimer timer).begin t.uri .refresh, []) else none
    | none => none
  | .advance task answer =>
    match h.task? task with
    | some t => h.stepTask t answer
    | none => none

end Hub

end LintBridge
