import LintBridge.Executable.Resolver
import LintBridge.Hub.Step

/-!
# Rehearsals

A rehearsal lets the hub do its work on a machine, with an editor whose answers are known before.
All steps that are possible at once are taken in the order of their tasks; what takes time is begun
at once and answered when its time has come.

## Main definitions

* `Editor` — the answers of the editor.
* `Rehearsal` — a hub, a machine and an editor.
* `Rehearsal.settle` — lets all tasks end.
* `Rehearsal.runFor` — lets some time pass.
* `Rehearsal.locate`, `Rehearsal.ensure` — single calls to the locator.
-/

namespace LintBridge

/-- The answers of the editor. -/
structure Editor where
  /-- The actions that are chosen in one warning after another; none for a dismissal. -/
  choices : List (Option String)
  /-- The paths that are picked in one file picker after another. -/
  picks : List (Option String)
  /-- How long a warning stays open, in microseconds. -/
  choiceDelay : Nat
  /-- How long a file picker stays open. -/
  pickDelay : Nat
  /-- How long it takes to open a page. -/
  pageDelay : Nat
  deriving Repr

/-- An answer that comes at some time. -/
structure Pending where
  task : Nat
  time : Nat
  answer : Answer
  deriving Repr

/-- A hub, a machine and an editor. -/
structure Rehearsal where
  hub : Hub
  machine : Machine
  environment : Environment
  cwd : Place
  editor : Editor
  /-- The answers that are still to come. -/
  pending : List Pending
  /-- What was seen from outside, the last first. -/
  seen : List HubOutput

namespace Rehearsal

/-- A rehearsal in the beginning. -/
def start (settings : SettingsStore) (machine : Machine) (environment : Environment) (cwd : Place)
    (editor : Editor) : Rehearsal :=
  ⟨.ofSettings settings, machine, environment, cwd, editor, [], []⟩

/-- The time. -/
def now (r : Rehearsal) : Nat := r.machine.clock

/-- The rehearsal with a machine on which something has run: its effects are there at once, and its
answer comes when it has ended. -/
def after (r : Rehearsal) (m : Machine) : Rehearsal × Nat :=
  ({ r with machine := { m with clock := r.now } }, m.clock)

/-! ### Answers -/

/-- Tries a path. -/
def tryPath (r : Rehearsal) (path : String) : Rehearsal × Nat × Answer :=
  let (m, isValid) := Executable.isValid r.environment r.cwd r.machine path
  let (r, time) := r.after m
  (r, time, .verdict isValid)

/-- Where the default name is found now. -/
def findDefault (r : Rehearsal) : Answer :=
  .found (Executable.findDefault? r.environment r.machine.files r.cwd)

/-- Writes the executable to the settings file, as the locator stores it. -/
def writePath (r : Rehearsal) (path : String) : Rehearsal :=
  let (_, t, _) := r.hub.locator.settings.setPath r.machine.files r.cwd path
  { r with machine := { r.machine with files := t } }

/-- The answer to a step of the locator, and when it comes. -/
def answerLocating (r : Rehearsal) : LocateStage → Rehearsal × Nat × Answer
  | .starting => (r, r.now, r.findDefault)
  | .returning => (r, r.now, r.findDefault)
  | .trying path => r.tryPath path
  | .retrying path => r.tryPath path
  | .validating path => r.tryPath path
  | .warned =>
    ({ r with editor := { r.editor with choices := r.editor.choices.tail } },
      r.now + r.editor.choiceDelay, .choice (r.editor.choices.head?.getD none))
  | .picking =>
    let path := r.editor.picks.head?.getD none
    let isFile := (path.map fun p => r.machine.files.isFile r.cwd (.ofString p)).getD false
    ({ r with editor := { r.editor with picks := r.editor.picks.tail } },
      r.now + r.editor.pickDelay, .picked path isFile)
  | .browsing => (r, r.now + r.editor.pageDelay, .nothing)
  | .storing path => (r.writePath path, r.now, .nothing)
  | _ => (r, r.now, .nothing)

/-- The answer to the next step of a task, and when it comes. -/
def answer (r : Rehearsal) : Stage → Rehearsal × Nat × Answer
  | .locating _ _ stage => r.answerLocating stage
  | .running job target =>
    let (m, outcome) := Linter.lint job r.environment r.cwd r.machine target
    let (r, time) := r.after m
    (r, time, .outcome outcome)
  | _ => (r, r.now, .nothing)

/-! ### Steps -/

/-- Takes an event, if it can happen. -/
def take? (r : Rehearsal) (e : HubEvent) : Option Rehearsal :=
  (r.hub.step? e).map fun (hub, outputs) =>
    { r with hub := hub, seen := outputs.reverse ++ r.seen }

/-- Takes an event; if it cannot happen, nothing changes. -/
def take (r : Rehearsal) (e : HubEvent) : Rehearsal := (r.take? e).getD r

/-- Whether an answer to a task is still to come. -/
def isPending (r : Rehearsal) (task : Nat) : Bool := r.pending.any fun p => p.task = task

/-- Lets a task take its next step, or begins what it has to wait for. None if it has to wait for
another task. -/
def advance? (r : Rehearsal) (t : Task) : Option Rehearsal :=
  if r.isPending t.id then none
  else
    let (s, time, answer) := r.answer t.stage
    if r.now < time then some { s with pending := s.pending ++ [⟨t.id, time, answer⟩] }
    else s.take? (.advance t.id answer)

/-- Lets the first task that can do so take a step. -/
def advanceFirst? (r : Rehearsal) : List Task → Option Rehearsal
  | [] => none
  | t :: ts =>
    match r.advance? t with
    | some r => some r
    | none => r.advanceFirst? ts

/-- The earlier of two answers; the first of two that come at once. -/
def earlier (a b : Pending) : Pending := if b.time < a.time then b else a

/-- The answer that comes next. -/
def nextPending? (r : Rehearsal) : Option Pending :=
  match r.pending with
  | [] => none
  | p :: ps => some (ps.foldl earlier p)

/-- Lets the time come at which an answer arrives, and gives it to its task. -/
def deliver (r : Rehearsal) (p : Pending) : Rehearsal :=
  { r with
    machine := r.machine.advance (p.time - r.now)
    pending := r.pending.filter fun q => q.task ≠ p.task }.take (.advance p.task p.answer)

/-- Takes steps until nothing more happens before the time `limit`. -/
def run (limit : Option Nat) : (fuel : Nat) → Rehearsal → Rehearsal
  | 0, r => r
  | fuel + 1, r =>
    match r.advanceFirst? r.hub.tasks with
    | some r => run limit fuel r
    | none =>
      match r.nextPending? with
      | none => r
      | some p =>
        if limit.all fun l => p.time ≤ l then run limit fuel (r.deliver p) else r

/-- How many steps the tasks can take at most. -/
def steps (r : Rehearsal) : Nat := 100 * (r.hub.tasks.length + 1)

/-- Lets all tasks end. -/
def settle (r : Rehearsal) : Rehearsal := run none r.steps r

/-- Lets some time pass, in microseconds. -/
def runFor (r : Rehearsal) (time : Nat) : Rehearsal :=
  let limit := r.now + time
  let r := run (some limit) r.steps r
  { r with machine := r.machine.advance (limit - r.now) }

/-- Lets the delays of all timers end, and starts the tasks of those that are due. -/
def elapseAll (r : Rehearsal) : Rehearsal :=
  let ids := r.hub.timers.map Timer.id
  let r := ids.foldl (fun r id => r.take (.elapse id)) r
  ids.foldl (fun r id => r.take (.fire id)) r

/-! ### Single calls -/

/-- Tries what is configured. -/
def available (r : Rehearsal) (root : Option Path) : Rehearsal × Option String :=
  let l := r.hub.locator
  let (m, found) :=
    Executable.available r.environment r.cwd r.machine l.settings.current.path root
  ({ r with machine := m, hub := { r.hub with locator := { l with cache := found } } }, found)

/-- Lets one call to the locator go on until it has come to a stage at which it ends. -/
def call (root : Option Path) (ends : LocateStage → Option (Option String)) :
    (fuel : Nat) → LocateStage → Rehearsal → Rehearsal × Option String
  | 0, _, r => (r, none)
  | fuel + 1, stage, r =>
    match ends stage with
    | some result => (r, result)
    | none =>
      let caller := r.hub.nextTask
      let (r, time, answer) := r.answerLocating stage
      let r := { r with machine := r.machine.advance (time - r.now) }
      match r.hub.locator.step? caller root stage answer with
      | none => (r, none)
      | some (l, stage, prompts) =>
        call root ends fuel stage { r with
          hub := { r.hub with locator := l }
          seen := (prompts.map (.prompted caller)).reverse ++ r.seen }

/-- The most steps of one call. -/
def callSteps : Nat := 20

/-- Locates the executable, and asks the user if necessary. -/
def ensure (r : Rehearsal) (root : Option Path) : Rehearsal × Option String :=
  let ends : LocateStage → Option (Option String)
    | .done result => some result
    | _ => none
  call root ends callSteps .starting r

/-- Lets the user pick the executable. -/
def locate (r : Rehearsal) : Rehearsal × Option String :=
  let ends : LocateStage → Option (Option String)
    | .regretting => some none
    | .counting result => some result
    | _ => none
  call none ends callSteps .picking { r with seen := .prompted r.hub.nextTask .picker :: r.seen }

end Rehearsal

end LintBridge
