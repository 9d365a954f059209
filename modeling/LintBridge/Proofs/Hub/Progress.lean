import LintBridge.Proofs.Hub.Orderly
import LintBridge.Proofs.Locator.Parley
import Mathlib.Data.List.MinMax

/-!
# Tasks do not block each other

A task may have to wait twice: first for the turn of its slot, which it then keeps until it ends,
and, while it keeps it, for the turn to ask, which it keeps until the user has answered. So a task
can wait for one that waits itself. This file shows that it goes no further than that, and that
tasks never wait for each other in a circle, whatever the order of moves, also while a prompt is
open and while slots are forgotten and made anew.

What makes this so is that a turn always belongs to a task that has not ended: the turn of a slot
because hubs are orderly (`Hub.Orderly.held`), and the turn to ask because a call gives it up before
it returns (`Hub.Asked`). The task with the turn of a slot is past its entry, and the call with the
turn to ask does not wait for anything within the hub. So whoever waits does so for a task that has
come further (`Hub.WaitsFor.rank_lt`).

What comes from outside is not part of this: a task whose prompt is never answered, or whose linter
never ends, keeps its turns. The step is possible whichever answer comes (`Hub.CanStep`).

## Main definitions

* `Stage.expects` — the answers that a task waits for.
* `Hub.CanStep` — a task takes a step, whichever answer it gets.
* `Hub.WaitsFor` — a task waits for another one.
* `Hub.Asked` — the turn to ask belongs to a task that has not ended.

## Main results

* `Hub.Run.asked` — the turn to ask belongs to such a task after any run.
* `Hub.Run.never_stuck` — tasks do not block each other.
-/

namespace LintBridge

/-! ### What a task waits for -/

/-- The answer is of the kind that the stage waits for: what a call wants to know on the way to the
executable, or what came of the linter. No other stage needs to know anything. -/
def Stage.expects : Stage → Answer → Bool
  | .locating _ _ (.done _), .nothing => true
  | .locating _ _ s, a => s.expects a
  | .running _ _, .outcome _ => true
  | .running _ _, _ => false
  | _, .nothing => true
  | _, _ => false

/-- What a stage means for the turn to ask. -/
def Stage.phase : Stage → AskPhase
  | .locating _ _ s => s.phase
  | _ => .before

/-- How far a task is from waiting for nobody: it may first have to wait for the turn of its slot,
and then for the turn to ask. -/
def Stage.rank : Stage → Nat
  | .queued => 2
  | .locating _ _ (.waiting _) => 1
  | _ => 0

namespace Hub

variable {h h' : Hub} {t u : Task} {a : Answer} {outs : List HubOutput}

/-- The task takes a step, whichever answer it gets, and there is an answer for it to get. -/
structure CanStep (h : Hub) (t : Task) : Prop where
  awaits : ∃ a, t.stage.expects a
  accepts : ∀ a, t.stage.expects a → (h.step? (.advance t.id a)).isSome

/-- A task waits for another one. -/
inductive WaitsFor (h : Hub) (t u : Task) : Prop where
  /-- It waits for the turn of its slot, which the other one has. -/
  | slot (stage : t.stage = .queued) (turn : h.holder? t.slot = some u.id)
  /-- It waits for the turn to ask, which the other one has. -/
  | prompt (document : Document) (folders : List Path) (seen : Nat)
    (stage : t.stage = .locating document folders (.waiting seen))
    (turn : h.locator.asker = some u.id)

/-! ### When a step is possible -/

private theorem expects_locating {d : Document} {folders : List Path} {s : LocateStage}
    (unfinished : ∀ result, s ≠ .done result) :
    (Stage.locating d folders s).expects a = s.expects a := by
  cases s with
  | done result => exact absurd rfl (unfinished result)
  | _ => rfl

theorem exists_expects (s : Stage) : ∃ a, s.expects a = true := by
  cases s with
  | locating d folders s =>
    by_cases finished : ∃ result, s = .done result
    · obtain ⟨result, rfl⟩ := finished
      exact ⟨.nothing, rfl⟩
    · have unfinished : ∀ result, s ≠ .done result := fun result eq => finished ⟨result, eq⟩
      obtain ⟨a, ha⟩ := LocateStage.exists_expects unfinished
      exact ⟨a, (expects_locating unfinished).trans ha⟩
  | running => exact ⟨.outcome .clean, rfl⟩
  | _ => exact ⟨.nothing, rfl⟩

/-- A task that locates the executable takes a step if the call does. -/
private theorem isSome_stepLocating_iff {d : Document} {folders : List Path} {s : LocateStage}
    (unfinished : ∀ result, s ≠ .done result) : (h.stepLocating t d folders s a).isSome ↔
      (h.locator.step? t.id folders.head? s a).isSome := by
  unfold stepLocating
  split
  · exact absurd rfl (unfinished _)
  · exact absurd rfl (unfinished none)
  · cases h.locator.step? t.id folders.head? s a <;> rfl

/-- **When a step is possible**, given an answer that the task waits for: the task waits for neither
of the turns, or the one that it waits for is free. -/
theorem isSome_stepTask_iff (expected : t.stage.expects a) : (h.stepTask t a).isSome ↔
    (t.stage = .queued → h.isFree t.slot) ∧
    ∀ d folders seen, t.stage = .locating d folders (.waiting seen) → h.locator.asker = none := by
  cases stage : t.stage with
  | queued => by_cases free : h.isFree t.slot <;> simp [stepTask, stage, free]
  | locating d folders s =>
    by_cases finished : ∃ result, s = .done result
    · obtain ⟨result, rfl⟩ := finished
      cases result <;> simp [stepTask, stepLocating, stage]
    · have unfinished : ∀ result, s ≠ .done result := fun result eq => finished ⟨result, eq⟩
      rw [stage, expects_locating unfinished] at expected
      simp only [stepTask, stage, isSome_stepLocating_iff unfinished, Locator.isSome_step?_iff,
        expected, reduceCtorEq, false_imp_iff, true_and, Stage.locating.injEq]
      constructor
      · rintro free - - seen ⟨-, -, eq⟩
        exact free ⟨seen, eq⟩
      · rintro free ⟨seen, eq⟩
        exact free d folders seen ⟨rfl, rfl, eq⟩
  | running job target =>
    rw [stage] at expected
    cases a <;> simp_all [Stage.expects, stepTask]
  | admitted | judging =>
    simp only [stepTask, stage]
    split <;> simp
  | looking =>
    simp only [stepTask, stage]
    split <;> simp
  | _ => simp [stepTask, stage]

/-! ### Whose turn it is to ask -/

/-- The turn to ask belongs to a task that has not ended, and that is past waiting for it. -/
def Asked (h : Hub) : Prop :=
  ∀ k, h.locator.asker = some k → ∃ t, h.task? k = some t ∧ t.stage.phase.HasTurn

/-- A step of a task has one of the effects of a step of a call on the turn to ask. A task that has
the turn after it has not ended. -/
theorem TaskStep.turn (known : h.task? t.id = some t) (step : TaskStep h t a h' outs) :
    ∃ φ, TurnEffect h.locator h'.locator t.id t.stage.phase φ ∧
      (φ.HasTurn → ∃ t', h'.task? t.id = some t' ∧ t'.stage.phase = φ) := by
  -- A step that is not one of the call leaves the locator alone, and its task has no turn.
  have apart (keeps : h'.locator = h.locator) (none : ¬ t.stage.phase.HasTurn) :
      ∃ φ, TurnEffect h.locator h'.locator t.id t.stage.phase φ ∧
        (φ.HasTurn → ∃ t', h'.task? t.id = some t' ∧ t'.stage.phase = φ) :=
    ⟨.before, .stays (keeps ▸ rfl) (iff_of_false id none), False.elim⟩
  cases step with
  | locate _ d folders s s' l prompts stage call =>
    refine ⟨s'.phase, ?_, fun _ => ⟨_, task?_moveTo known _, rfl⟩⟩
    rw [stage]
    exact (Locator.step?_eq_some_iff.mp call).turn
  | record _ target o stage =>
    refine apart ?_ (stage ▸ id)
    unfold Hub.record
    split
    · split <;> rfl
    · rfl
    · rfl
  | forget _ stage =>
    refine apart ?_ (stage ▸ id)
    simp only [finish, changeSlot]
    unfold Hub.forget
    split <;> rfl
  | enter _ stage | look _ stage | remove _ stage | skip _ stage | miss _ stage | capture _ _ stage
  | reject _ _ stage | clear _ stage | gather _ _ stage | equip _ _ _ _ stage | giveUp _ _ _ stage
  | launch _ _ _ _ stage | collect _ _ _ stage | accept _ _ _ stage | discard _ _ _ stage
  | complain _ _ _ _ stage | publish _ _ _ stage | delete _ stage => exact apart rfl (stage ▸ id)

theorem Asked.step (asked : h.Asked) (known : h.task? t.id = some t)
    (step : TaskStep h t a h' outs) : h'.Asked := by
  obtain ⟨φ, turn, there⟩ := step.turn known
  intro k hk
  by_cases hid : k = t.id
  · subst hid
    have has : φ.HasTurn := by
      cases turn with
      | stays asker same =>
        obtain ⟨u, hu, has⟩ := asked t.id (asker ▸ hk)
        obtain rfl := Option.some.inj (known.symm.trans hu)
        exact same.mpr has
      | taken _ _ has => exact has
      | ended _ asker _ => exact absurd (asker.symm.trans hk) nofun
    obtain ⟨t', ht', rfl⟩ := there has
    exact ⟨t', ht', has⟩
  · have before : h.locator.asker = some k := by
      cases turn with
      | stays asker _ => exact asker.symm.trans hk
      | taken _ asker _ => exact absurd (Option.some.inj (asker.symm.trans hk)).symm hid
      | ended _ asker _ => exact absurd (asker.symm.trans hk) nofun
    obtain ⟨u, hu, has⟩ := asked k before
    exact ⟨u, (step.effect.task?_of_ne hid).trans hu, has⟩

theorem locator_begin (h : Hub) (uri : Uri) (work : Work) :
    (h.begin uri work).locator = h.locator := by
  have hslot : (h.withSlot uri).1.locator = h.locator := by
    unfold withSlot
    split <;> rfl
  exact hslot

/-- Only the steps of tasks give turns to ask and take them away. -/
theorem asker_of_move? {move : Move} (hm : h.move? move = some (h', outs))
    (other : ∀ k a, move ≠ .event (.advance k a)) : h'.locator.asker = h.locator.asker :=
  eq_of_move? (fun h => h.locator.asker)
    (fun h uri work => congrArg Locator.asker (locator_begin h uri work))
    (fun _ _ => rfl) (fun _ _ => rfl) (fun _ _ _ => rfl) (fun _ _ => rfl) hm other

theorem Asked.move (asked : h.Asked) (hk : h.WellKept) {move : Move}
    (hm : h.move? move = some (h', outs)) : h'.Asked := by
  by_cases step : ∃ k a, move = .event (.advance k a)
  · obtain ⟨k, a, rfl⟩ := step
    simp only [move?, step?] at hm
    split at hm
    · next t known =>
      obtain rfl : t.id = k := (mem_of_task? known).2
      exact asked.step known (.of_stepTask hm)
    · cases hm
  · cases MoveEffect.of_move? hm with
    | steps t a move_eq => exact absurd ⟨t.id, a, move_eq⟩ step
    | begins h₁ same eq _ =>
      intro k hasker
      rw [asker_of_move? hm fun k a eq => step ⟨k, a, eq⟩] at hasker
      obtain ⟨t, known, has⟩ := asked k hasker
      exact ⟨t, task?_of_begins hk same eq known, has⟩

/-- **The turn to ask belongs to a task that has not ended**, after any run. -/
theorem Run.asked {settings : SettingsStore} {ms : List Moment}
    (run : Run (ofSettings settings) ms h) : h.Asked := by
  induction run with
  | stay => exact fun _ hasker => absurd hasker nofun
  | next m past legal ih =>
    exact ih.move (past.orderly (orderly_ofSettings settings)).toWellKept legal

/-! ### No circles -/

private theorem rank_of_hasTurn {s : Stage} (has : s.phase.HasTurn) : s.rank = 0 := by
  cases s with
  | locating d folders s =>
    cases s with
    | waiting => exact has.elim
    | _ => rfl
  | queued => exact has.elim
  | _ => rfl

private theorem rank_le_one {s : Stage} (entered : s ≠ .queued) : s.rank ≤ 1 := by
  unfold Stage.rank
  split
  · exact absurd rfl entered
  · exact Nat.le_refl 1
  · exact Nat.zero_le 1

/-- **Who waits does so for a task that has come further.** -/
theorem WaitsFor.rank_lt (ho : h.Orderly) (asked : h.Asked) (hu : u ∈ h.tasks)
    (waits : h.WaitsFor t u) : u.stage.rank < t.stage.rank := by
  cases waits with
  | slot stage turn =>
    obtain ⟨u', hu', hid, -, entered⟩ := ho.held _ _ turn
    obtain rfl := ho.eq_of_id hu' hu hid
    exact stage ▸ Nat.lt_succ_of_le (rank_le_one entered)
  | prompt d folders seen stage turn =>
    obtain ⟨u', known, has⟩ := asked _ turn
    obtain ⟨hu', hid⟩ := mem_of_task? known
    obtain rfl := ho.eq_of_id hu' hu hid
    rw [rank_of_hasTurn has, stage]
    exact Nat.one_pos

/-- A task can take a step unless it waits for another task that has not ended. -/
theorem Orderly.canStep_iff (ho : h.Orderly) (asked : h.Asked) (ht : t ∈ h.tasks) :
    h.CanStep t ↔ ∀ u ∈ h.tasks, ¬ h.WaitsFor t u := by
  have hstep (a : Answer) : h.step? (.advance t.id a) = h.stepTask t a := by
    rw [step?, ho.task?_of_mem ht]
  constructor
  · intro can u hu waits
    obtain ⟨a, expected⟩ := can.awaits
    have possible := can.accepts a expected
    rw [hstep, isSome_stepTask_iff expected] at possible
    cases waits with
    | slot stage turn =>
      have free := (isFree_iff.mp (possible.1 stage)).2
      cases free.symm.trans turn
    | prompt d folders seen stage turn =>
      cases (possible.2 d folders seen stage).symm.trans turn
  · intro waitsForNone
    refine ⟨exists_expects t.stage, fun a expected => ?_⟩
    rw [hstep, isSome_stepTask_iff expected]
    refine ⟨fun stage => ?_, fun d folders seen stage => ?_⟩
    · obtain ⟨g, hg, -⟩ := ho.generation_le t ht
      refine isFree_iff.mpr ⟨hg ▸ rfl, Option.eq_none_iff_forall_ne_some.mpr fun k turn => ?_⟩
      obtain ⟨u, hu, rfl, -, -⟩ := ho.held _ _ turn
      exact waitsForNone u hu (.slot stage turn)
    · refine Option.eq_none_iff_forall_ne_some.mpr fun k turn => ?_
      obtain ⟨u, known, -⟩ := asked k turn
      obtain ⟨hu, rfl⟩ := mem_of_task? known
      exact waitsForNone u hu (.prompt d folders seen stage turn)

/-- In a group of tasks the one that has come furthest waits for none of them. -/
theorem Orderly.exists_not_waitsFor (ho : h.Orderly) (asked : h.Asked) {group : List Task}
    (known : group ⊆ h.tasks) (nonempty : group ≠ []) :
    ∃ t ∈ group, ∀ u ∈ group, ¬ h.WaitsFor t u := by
  obtain ⟨t, ht⟩ := Option.ne_none_iff_exists'.mp
    (mt (List.argmin_eq_none (f := fun t : Task => t.stage.rank)).mp nonempty)
  refine ⟨t, List.argmin_mem ht, fun u hu waits => ?_⟩
  exact List.not_lt_of_mem_argmin hu ht (waits.rank_lt ho asked (known hu))

/-- **Tasks do not block each other.** Whatever the triggers, the answers of the user and of the
tools, and the order of moves:

1. a task can take a step unless it waits for another task that has not ended;
2. in every group of tasks there is one that waits for none of the group, so tasks never wait for
   each other in a circle;
3. as long as there are tasks that have not ended, one of them can take a step. -/
theorem Run.never_stuck {settings : SettingsStore} {ms : List Moment}
    (run : Run (ofSettings settings) ms h) :
    (∀ t ∈ h.tasks, h.CanStep t ↔ ∀ u ∈ h.tasks, ¬ h.WaitsFor t u) ∧
    (∀ group ⊆ h.tasks, group ≠ [] → ∃ t ∈ group, ∀ u ∈ group, ¬ h.WaitsFor t u) ∧
    (h.tasks ≠ [] → ∃ t ∈ h.tasks, h.CanStep t) := by
  have ho : h.Orderly := run.orderly (orderly_ofSettings settings)
  have furthest : ∀ group ⊆ h.tasks, group ≠ [] → ∃ t ∈ group, ∀ u ∈ group, ¬ h.WaitsFor t u :=
    fun _ known nonempty => ho.exists_not_waitsFor run.asked known nonempty
  refine ⟨fun t ht => ho.canStep_iff run.asked ht, furthest, fun unfinished => ?_⟩
  obtain ⟨t, ht, waitsForNone⟩ := furthest h.tasks (List.Subset.refl _) unfinished
  exact ⟨t, ht, (ho.canStep_iff run.asked ht).mpr waitsForNone⟩

/-- Another draft. -/
def sketch : Uri := ⟨"untitled", none, none, .whole ['b'], none, none⟩

/-- A warning is open for the draft, a call for another one waits for the turn to ask, and the draft
is to be linted once more. -/
def crowding : List Move :=
  [openDraft 1, .event (.document (.opened sketch "proto3" 1 "message m {}"))] ++
  takes 0 (List.replicate 4 .nothing ++ [.found none, .verdict false] ++
    List.replicate 3 .nothing ++ [.found none, .verdict false, .nothing]) ++
  takes 1 (List.replicate 4 .nothing ++ [.found none, .verdict false, .nothing]) ++
  [.call draft .refresh]

theorem crowding_never_stuck : ∃ ms h, Run (ofSettings .inMemory) ms h ∧
    h.tasks.map (fun t => t.stage.rank) = [0, 1, 2] ∧ h.locator.asker = some 0 ∧
    h.holder? 0 = some 0 ∧ ∃ t ∈ h.tasks, h.CanStep t := by
  have seen : ((ofSettings .inMemory).follow crowding).map
      (fun p => (p.2.tasks.map fun t => t.stage.rank, p.2.locator.asker, p.2.holder? 0)) =
        some ([0, 1, 2], some 0, some 0) := by rfl
  obtain ⟨ms, h, run, -, seen⟩ := Run.exists_of_follow seen
  simp only [Prod.mk.injEq] at seen
  obtain ⟨ranks, asker, holder⟩ := seen
  refine ⟨ms, h, run, ranks, asker, holder, run.never_stuck.2.2 ?_⟩
  rintro none
  rw [none] at ranks
  cases ranks

end Hub

end LintBridge
