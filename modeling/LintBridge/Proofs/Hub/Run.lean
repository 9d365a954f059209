import LintBridge.Proofs.Hub.TaskStep
import Mathlib.Data.List.Induction

/-!
# Runs of the hub

A run of the hub is a list of moments, each of them one move with the hub before it and the hub
after it. A move is either an event of the hub or a trigger from outside, which starts a task for a
document whatever the editor has told. The moves of a run may come in any order in which they are
possible, so a statement about all runs is a statement about all interleavings.

Tasks are numbered in the order in which their triggers came, over all documents
(`Hub.Run.map_id_started`).

## Main definitions

* `Hub.Move`, `Hub.move?` — what can be done at a hub.
* `Hub.Moment`, `Hub.Run` — the moments of a run.
* `Hub.follow` — the run that some moves make.
* `Hub.callsOf` — the tasks that a move calls for.
* `Hub.started`, `Hub.triggers` — the tasks that were started, and those for one document.
* `Hub.publishers` — the tasks that published for one document.

## Main results

* `Hub.MoveEffect.of_move?` — a move starts the tasks that it calls for or is a step of one task.
* `Hub.eq_of_move?` — what every move leaves as it was that is not a step of a task.
* `Hub.Run.split` — a run is legal at each of its moments.
* `Hub.Run.exists_of_follow` — moves that can be followed make a run.
-/

namespace LintBridge

namespace Hub

/-! ### Moves and moments -/

/-- What can be done at a hub. -/
inductive Move where
  /-- A task is started for a document. -/
  | call (uri : Uri) (work : Work)
  /-- Something happens at the hub. -/
  | event (e : HubEvent)

/-- The hub after a move, and what is seen of it. None if the move is not possible. -/
def move? (h : Hub) : Move → Option (Hub × List HubOutput)
  | .call uri work => some (h.begin uri work, [])
  | .event e => h.step? e

/-- A move together with the hub before it, what was seen of it, and the hub after it. -/
structure Moment where
  before : Hub
  move : Move
  outputs : List HubOutput
  after : Hub

/-- The move leads from the hub before it to the hub after it. -/
def Moment.IsLegal (m : Moment) : Prop := m.before.move? m.move = some (m.after, m.outputs)

/-- The moments lead from one hub to another. -/
inductive Run (start : Hub) : List Moment → Hub → Prop where
  | stay : Run start [] start
  | next {ms : List Moment} (m : Moment) (past : Run start ms m.before) (legal : m.IsLegal) :
    Run start (ms ++ [m]) m.after

variable {start h h' mid : Hub} {ms past future : List Moment} {m : Moment} {uri : Uri}

namespace Run

theorem concat_inv (run : Run start (ms ++ [m]) h) :
    Run start ms m.before ∧ m.IsLegal ∧ h = m.after := by
  generalize hl : ms ++ [m] = l at run
  cases run with
  | stay => simp at hl
  | next m' past legal =>
    obtain ⟨rfl, hm⟩ := List.append_inj' hl rfl
    obtain rfl := List.singleton_inj.mp hm
    exact ⟨past, legal, rfl⟩

theorem append (first : Run start past mid) (second : Run mid future h) :
    Run start (past ++ future) h := by
  induction second with
  | stay => simpa using first
  | next m _ legal ih =>
    rw [← List.append_assoc]
    exact .next m ih legal

theorem append_inv (run : Run start (past ++ future) h) :
    ∃ mid, Run start past mid ∧ Run mid future h := by
  induction future using List.reverseRecOn generalizing h with
  | nil => exact ⟨h, by simpa using run, .stay⟩
  | append_singleton future m ih =>
    rw [← List.append_assoc] at run
    obtain ⟨hrun, legal, rfl⟩ := concat_inv run
    obtain ⟨mid, hfirst, hsecond⟩ := ih hrun
    exact ⟨mid, hfirst, .next m hsecond legal⟩

/-- **A run is legal at each of its moments.** Before a moment lies a run that leads to it, and
after it one that leads on from it. -/
theorem split (run : Run start (past ++ m :: future) h) :
    Run start past m.before ∧ m.IsLegal ∧ Run m.after future h := by
  rw [List.append_cons] at run
  obtain ⟨mid, hfirst, hsecond⟩ := append_inv run
  obtain ⟨hpast, legal, rfl⟩ := concat_inv hfirst
  exact ⟨hpast, legal, hsecond⟩

end Run

/-- The moments that some moves lead through, and the hub after them. None if one of the moves is
not possible. -/
def follow (h : Hub) : List Move → Option (List Moment × Hub)
  | [] => some ([], h)
  | move :: moves =>
    match h.move? move with
    | some (h₁, outs) =>
      (h₁.follow moves).map fun (ms, final) => (⟨h, move, outs, h₁⟩ :: ms, final)
    | none => none

/-- Following moves gives a run that makes these moves. -/
theorem Run.of_follow {moves : List Move} (hf : start.follow moves = some (ms, h)) :
    Run start ms h ∧ ms.map Moment.move = moves := by
  induction moves generalizing start ms with
  | nil =>
    obtain ⟨rfl, rfl⟩ := Prod.mk.inj (Option.some.inj hf)
    exact ⟨.stay, rfl⟩
  | cons move moves ih =>
    simp only [follow] at hf
    split at hf
    · next h₁ outs legal =>
      obtain ⟨⟨ms, final⟩, hrest, heq⟩ := Option.map_eq_some_iff.mp hf
      obtain ⟨rfl, rfl⟩ := Prod.mk.inj heq
      obtain ⟨run, hmoves⟩ := ih hrest
      exact ⟨Run.append (.next ⟨start, move, outs, h₁⟩ .stay legal) run,
        congrArg (List.cons move) hmoves⟩
    · cases hf

/-- Moves that can be followed make a run, of which all holds that is seen when they are. -/
theorem Run.exists_of_follow {α : Type} {moves : List Move} {view : List Moment × Hub → α} {a : α}
    (seen : (start.follow moves).map view = some a) :
    ∃ ms h, Run start ms h ∧ ms.map Moment.move = moves ∧ view (ms, h) = a := by
  obtain ⟨⟨ms, h⟩, hf, hview⟩ := Option.map_eq_some_iff.mp seen
  obtain ⟨run, hmoves⟩ := Run.of_follow hf
  exact ⟨ms, h, run, hmoves, hview⟩

/-- The moments before and after the one of which something is seen. -/
theorem exists_append_cons {α : Type} {f : Moment → α} {a : α} {n : Nat}
    (seen : (ms.drop n).head?.map f = some a) :
    ∃ past c future, ms = past ++ c :: future ∧ ms.drop n = c :: future ∧ f c = a := by
  obtain ⟨c, hhead, hc⟩ := Option.map_eq_some_iff.mp seen
  obtain ⟨future, hdrop⟩ := List.head?_eq_some_iff.mp hhead
  exact ⟨ms.take n, c, future, by rw [← hdrop, List.take_append_drop], hdrop, hc⟩

/-! ### What a move does -/

/-- Starts several tasks, one after another. -/
def beginAll (h : Hub) (calls : List (Uri × Work)) : Hub :=
  calls.foldl (fun h c => h.begin c.1 c.2) h

theorem refreshAll_eq :
    h.refreshAll = h.beginAll (h.documents.uris.map fun uri => (uri, .refresh)) := by
  rw [refreshAll, beginAll, List.foldl_map]

/-- The tasks that a move calls for: a document and the work for it, each. -/
def callsOf (h : Hub) : Move → List (Uri × Work)
  | .call uri work => [(uri, work)]
  | .event (.document e) =>
    match (h.documents.apply e).trigger e with
    | some (.refresh uri) => [(uri, .refresh)]
    | some (.delete uri) => [(uri, .delete)]
    | _ => []
  | .event (.focus uri) => if (h.documents.get? uri).isSome then [(uri, .refresh)] else []
  | .event (.configure _) => h.documents.uris.map fun uri => (uri, .refresh)
  | .event (.fire timer) => (h.timer? timer).toList.map fun t => (t.uri, .refresh)
  | _ => []

/-- What a move does: it starts the tasks that it calls for, and perhaps changes what turns do not
depend on; or it is a step of a task. -/
inductive MoveEffect (h : Hub) (move : Move) (h' : Hub) (outs : List HubOutput) : Prop where
  | begins (h₁ : Hub) (same : SameTurns h h₁) (eq : h' = h₁.beginAll (h.callsOf move))
      (silent : outs = [])
  | steps (t : Task) (a : Answer) (move_eq : move = .event (.advance t.id a))
      (known : h.task? t.id = some t) (step : TaskStep h t a h' outs)

/-- A move that calls for no task and changes only what turns do not depend on. -/
private theorem begins_none {move : Move} (none : h.callsOf move = []) (same : SameTurns h h') :
    MoveEffect h move h' [] :=
  .begins h' same (by rw [none]; rfl) rfl

private theorem begins_applyDocument (h : Hub) (e : DocumentEvent) :
    MoveEffect h (.event (.document e)) (h.applyDocument e) [] := by
  have same (ds : Documents) : SameTurns h { h with documents := ds } := ⟨rfl, rfl, rfl, rfl⟩
  unfold applyDocument
  dsimp only
  cases htrigger : (h.documents.apply e).trigger e with
  | none => exact .begins _ (same _) (by rw [callsOf, htrigger]; rfl) rfl
  | some trigger =>
    cases trigger with
    | refresh uri => exact .begins _ (same _) (by rw [callsOf, htrigger]; rfl) rfl
    | delete uri => exact .begins _ (same _) (by rw [callsOf, htrigger]; rfl) rfl
    | debounce uri version =>
      simp only [pull]
      split
      · exact begins_none (by rw [callsOf, htrigger]) ⟨rfl, rfl, rfl, rfl⟩
      · exact begins_none (by rw [callsOf, htrigger]) (same _)

/-- Every move either starts the tasks that it calls for or is a step of one task. -/
theorem MoveEffect.of_move? {move : Move} {outs : List HubOutput}
    (hm : h.move? move = some (h', outs)) : MoveEffect h move h' outs := by
  cases move with
  | call uri work =>
    obtain ⟨rfl, rfl⟩ := Prod.mk.inj (Option.some.inj hm)
    exact .begins h (.refl h) rfl rfl
  | event e =>
    cases e <;> simp only [move?, step?] at hm
    case document e =>
      obtain ⟨rfl, rfl⟩ := Prod.mk.inj (Option.some.inj hm)
      exact begins_applyDocument h e
    case focus uri =>
      obtain ⟨rfl, rfl⟩ := Prod.mk.inj (Option.some.inj hm)
      refine .begins h (.refl h) ?_ rfl
      simp only [applyFocus, callsOf]
      split <;> rfl
    case configure payload =>
      obtain ⟨rfl, rfl⟩ := Prod.mk.inj (Option.some.inj hm)
      have same : SameTurns h { h.updateClient payload with
          locator := { (h.updateClient payload).locator with cache := none } } :=
        ⟨rfl, rfl, rfl, rfl⟩
      refine .begins _ same ?_ rfl
      rw [applyConfiguration, refreshAll_eq]
      rfl
    case folders added removed =>
      obtain ⟨rfl, rfl⟩ := Prod.mk.inj (Option.some.inj hm)
      exact begins_none rfl ⟨rfl, rfl, rfl, rfl⟩
    case elapse timer =>
      split at hm
      · next t ht =>
        split at hm
        · cases hm
        · split at hm <;> obtain ⟨rfl, rfl⟩ := Prod.mk.inj (Option.some.inj hm) <;>
            exact begins_none rfl ⟨rfl, rfl, rfl, rfl⟩
      · cases hm
    case fire timer =>
      split at hm
      · next t ht =>
        split at hm
        · obtain ⟨rfl, rfl⟩ := Prod.mk.inj (Option.some.inj hm)
          exact .begins (h.dropTimer timer) ⟨rfl, rfl, rfl, rfl⟩ (by rw [callsOf, ht]; rfl) rfl
        · cases hm
      · cases hm
    case advance task a =>
      split at hm
      · next t ht =>
        have hid : t.id = task := by simpa using List.find?_some ht
        subst hid
        exact .steps t a rfl ht (.of_stepTask hm)
      · cases hm

/-- What triggers, documents, folders, timers and settings leave as it was is left by every move but
the steps of tasks. -/
theorem eq_of_move? {α : Type} (f : Hub → α) (begin : ∀ h uri work, f (Hub.begin h uri work) = f h)
    (documents : ∀ (h : Hub) ds, f { h with documents := ds } = f h)
    (folders : ∀ (h : Hub) fs, f { h with folders := fs } = f h)
    (timers : ∀ (h : Hub) ts n, f { h with timers := ts, nextTimer := n } = f h)
    (configured : ∀ (h : Hub) store, f { h with
      locator := { h.locator with settings := store, cache := none } } = f h)
    {move : Move} {outs : List HubOutput} (hm : h.move? move = some (h', outs))
    (other : ∀ k a, move ≠ .event (.advance k a)) : f h' = f h := by
  have beginAll (h : Hub) (calls : List (Uri × Work)) : f (h.beginAll calls) = f h := by
    induction calls generalizing h with
    | nil => rfl
    | cons c calls ih => exact (ih _).trans (begin h c.1 c.2)
  cases move with
  | call uri work =>
    obtain ⟨rfl, -⟩ := Prod.mk.inj (Option.some.inj hm)
    exact begin h uri work
  | event e =>
    cases e <;> simp only [move?, step?] at hm
    case document e =>
      obtain ⟨rfl, -⟩ := Prod.mk.inj (Option.some.inj hm)
      unfold applyDocument
      dsimp only
      cases (h.documents.apply e).trigger e with
      | none => exact documents h _
      | some trigger =>
        refine Eq.trans ?_ (documents h (h.documents.apply e))
        cases trigger with
        | refresh uri | delete uri => exact begin _ uri _
        | debounce uri version =>
          simp only [pull]
          split
          · exact timers _ _ _
          · rfl
    case focus uri =>
      obtain ⟨rfl, -⟩ := Prod.mk.inj (Option.some.inj hm)
      simp only [applyFocus]
      split
      · exact begin h uri _
      · rfl
    case configure payload =>
      obtain ⟨rfl, -⟩ := Prod.mk.inj (Option.some.inj hm)
      rw [applyConfiguration, refreshAll_eq, beginAll]
      exact configured h _
    case folders added removed =>
      obtain ⟨rfl, -⟩ := Prod.mk.inj (Option.some.inj hm)
      exact folders h _
    case elapse k =>
      repeat' split at hm
      all_goals cases hm
      all_goals exact timers h _ h.nextTimer
    case fire k =>
      repeat' split at hm
      all_goals cases hm
      exact (begin _ _ _).trans (timers h _ h.nextTimer)
    case advance k a => exact absurd rfl (other k a)

/-! ### Finding a task -/

section Finding

variable {k : Nat} {t : Task}

theorem mem_of_task? (ht : h.task? k = some t) : t ∈ h.tasks ∧ t.id = k :=
  ⟨List.mem_of_find?_eq_some ht, by simpa using List.find?_some ht⟩

private theorem find?_map_moveTo (l : List Task) (i k : Nat) (s : Stage) :
    (l.map fun t => if t.id = i then { t with stage := s } else t).find? (fun t => t.id = k) =
      (l.find? fun t => t.id = k).map fun t => if t.id = i then { t with stage := s } else t := by
  have hcomp : ((fun t : Task => decide (t.id = k)) ∘
      fun t => if t.id = i then { t with stage := s } else t) = fun t => decide (t.id = k) := by
    funext t
    simp only [Function.comp_apply]
    split <;> rfl
  rw [List.find?_map, hcomp]

theorem task?_moveTo (ht : h.task? k = some t) (s : Stage) :
    (h.moveTo k s).task? k = some { t with stage := s } := by
  have hid : t.id = k := (mem_of_task? ht).2
  rw [task?] at ht
  rw [moveTo, task?, find?_map_moveTo, ht, Option.map_some, if_pos hid]

theorem task?_moveTo_of_ne {i : Nat} (hne : k ≠ i) (s : Stage) :
    (h.moveTo i s).task? k = h.task? k := by
  rw [moveTo, task?, find?_map_moveTo, task?]
  cases ht : h.tasks.find? fun t => t.id = k with
  | none => rfl
  | some t =>
    have hid : t.id = k := by simpa using List.find?_some ht
    rw [Option.map_some, if_neg (hid ▸ hne)]

theorem task?_finish_of_ne (hne : k ≠ t.id) : (h.finish t).task? k = h.task? k := by
  simp only [finish, task?, List.find?_filter]
  congr 1
  funext t'
  by_cases hid : t'.id = k
  · simp [hid, hne]
  · simp [hid]

/-- A step of a task leaves the other tasks as they are. -/
theorem TaskEffect.task?_of_ne (effect : TaskEffect h t h') (hne : k ≠ t.id) :
    h'.task? k = h.task? k := by
  cases effect with
  | enters _ _ eq => exact eq ▸ task?_moveTo_of_ne hne _
  | goesOn s h₁ _ _ _ _ same eq =>
    rw [eq, task?_moveTo_of_ne hne, task?, same.tasks, task?]
  | ends _ _ eq => exact eq ▸ task?_finish_of_ne hne
  | forgets _ eq => rw [eq, task?_finish_of_ne hne, task?, tasks_forget, task?]

/-- Triggers leave the tasks as they are that there were before. -/
theorem task?_beginAll (hk : h.WellKept) (ht : h.task? k = some t) (calls : List (Uri × Work)) :
    (h.beginAll calls).task? k = some t := by
  induction calls generalizing h with
  | nil => exact ht
  | cons c calls ih =>
    refine ih hk.begin ?_
    rw [task?] at ht
    rw [task?, tasks_begin hk, List.find?_append, ht, Option.some_or]

/-- A move that starts tasks leaves those as they are that there were before. -/
theorem task?_of_begins {h₁ : Hub} {calls : List (Uri × Work)} (hk : h.WellKept)
    (same : SameTurns h h₁) (eq : h' = h₁.beginAll calls) (ht : h.task? k = some t) :
    h'.task? k = some t := by
  rw [eq]
  refine task?_beginAll (same.wellKept hk) ?_ calls
  rwa [task?, same.tasks]

end Finding

/-- What is seen at a moment is seen of a task that takes a step. -/
theorem Moment.step_of_output {o : HubOutput} (legal : m.IsLegal) (ho : o ∈ m.outputs) :
    ∃ t a, m.before.task? t.id = some t ∧ TaskStep m.before t a m.after m.outputs := by
  cases MoveEffect.of_move? legal with
  | begins h₁ same eq silent => exact absurd (silent ▸ ho) List.not_mem_nil
  | steps t a _ known step => exact ⟨t, a, known, step⟩

/-! ### What happened in a run -/

/-- The tasks that a move started, as they were then. -/
def Moment.started (m : Moment) : List Task :=
  m.after.tasks.filter fun t => m.before.nextTask ≤ t.id

/-- The tasks that were started in a run, as they were then, in order. -/
def started (ms : List Moment) : List Task := ms.flatMap Moment.started

/-- The numbers of the tasks that were started for a document, in order. -/
def triggers (uri : Uri) (ms : List Moment) : List Nat :=
  ((started ms).filter fun t => t.uri = uri).map Task.id

/-- The task that an output is a publication of, if it is one for a document. -/
def publisher? (uri : Uri) : HubOutput → Option Nat
  | .published k u _ _ => if u = uri then some k else none
  | _ => none

/-- The numbers of the tasks that published for a document, in order. -/
def publishers (uri : Uri) (ms : List Moment) : List Nat :=
  (ms.flatMap Moment.outputs).filterMap (publisher? uri)

theorem started_concat : started (ms ++ [m]) = started ms ++ m.started := by
  simp [started]

theorem publishers_concat :
    publishers uri (ms ++ [m]) = publishers uri ms ++ m.outputs.filterMap (publisher? uri) := by
  simp [publishers]

theorem mem_triggers {k : Nat} :
    k ∈ triggers uri ms ↔ ∃ t ∈ started ms, t.uri = uri ∧ t.id = k := by
  simp [triggers, and_assoc]

theorem mem_publisher? {k : Nat} {o : HubOutput} :
    publisher? uri o = some k ↔ ∃ ds v, o = .published k uri ds v := by
  cases o <;> simp [publisher?]
  constructor
  · rintro ⟨rfl, rfl⟩
    exact ⟨rfl, rfl⟩
  · rintro ⟨rfl, rfl⟩
    exact ⟨rfl, rfl⟩

theorem mem_publishers {k : Nat} :
    k ∈ publishers uri ms ↔ ∃ m ∈ ms, ∃ ds v, .published k uri ds v ∈ m.outputs := by
  simp only [publishers, List.mem_filterMap, List.mem_flatMap, mem_publisher?]
  constructor
  · rintro ⟨o, ⟨m, hm, ho⟩, ds, v, rfl⟩
    exact ⟨m, hm, ds, v, ho⟩
  · rintro ⟨m, hm, ds, v, ho⟩
    exact ⟨_, ⟨m, hm, ho⟩, ds, v, rfl⟩

/-! ### A draft -/

/-- The address of a document without a file. -/
def draft : Uri := ⟨"untitled", none, none, .whole ['a'], none, none⟩

/-- A draft is opened. -/
def openDraft (version : Int) : Move :=
  .event (.document (.opened draft "proto3" version "message m {}"))

/-- The draft is closed. -/
def closeDraft : Move := .event (.document (.closed draft))

/-- A task takes a step for each of some answers. -/
def takes (task : Nat) (answers : List Answer) : List Move :=
  answers.map fun a => .event (.advance task a)

/-- What a refresh of a linted document hears from its first step to its last, if the executable is
valid and the linter does its work. -/
def lintAnswers (o : Outcome) : List Answer :=
  List.replicate 4 .nothing ++ [.found none, .verdict true, .nothing, .nothing, .outcome o] ++
    List.replicate 3 .nothing

end Hub

end LintBridge
