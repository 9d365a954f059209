import LintBridge.Proofs.Hub.Ledger
import Mathlib.Data.List.Sort

/-!
# Publications follow their triggers

What the order of tasks is for. Whatever the order in which tasks take their steps, and however
often the slot of a document is forgotten and made anew, the publications for a document come in the
order of its triggers, the linter runs at most once at a time for a document, and the last trigger
of a document is never taken for an outdated one.

The invariant that is carried along a run concerns the publishers for a document: they are in
*sequence* (`Hub.Sequenced`) when every task that could still publish for the document comes after
all of them. A task that publishes is the latest of its document then, so by the ledger of the run
(`Hub.Run.ledger`) all later ones were started later.

## Main definitions

* `Hub.Sequenced` — the tasks that have published for a document come before those that still can.
* `Stage.IsComparison`, `Task.passed` — the stages that compare generations, and what follows them.
* `Hub.Moment.Compares`, `Hub.Moment.Passes`, `Hub.Moment.Ends` — what happens to a task at a
  moment.

## Main results

* `Hub.Run.publishers_sublist` — publications follow their triggers.
* `Hub.Run.last_passes` — the last trigger of a document is found to be the latest.
* `Hub.Run.in_sequence` — triggers take effect in order.
-/

namespace LintBridge

/-- The linter runs. -/
def Stage.IsRunning : Stage → Prop
  | .running _ _ => True
  | _ => False

theorem Stage.IsRunning.not_early {s : Stage} (running : s.IsRunning) : ¬ s.IsEarly := by
  cases s <;> first | exact id | exact running.elim

/-- The task is about to compare its generation with that of its slot. -/
def Stage.IsComparison : Stage → Prop
  | .admitted => True
  | .judging _ _ => True
  | _ => False

/-- The stage that follows a comparison which found the generation to be the latest. -/
def Task.passed (t : Task) : Stage :=
  match t.stage with
  | .admitted =>
    match t.work with
    | .refresh => .looking
    | .delete => .deleting
  | .judging target outcome => .recording target outcome
  | s => s

namespace Hub

variable {h h' : Hub} {t t' : Task} {uri : Uri} {ms : List Moment} {m : Moment}
  {settings : SettingsStore} {ks : List Nat}

/-! ### Publications -/

/-- The tasks that have published for a document come before those that still can. A task that comes
before one of them has still to compare its generation, and is beaten; or it is the one that has
published, and only its slot is left to forget. -/
structure Sequenced (uri : Uri) (ks : List Nat) (h : Hub) : Prop where
  sorted : ks.Pairwise (· < ·)
  lt_nextTask : ∀ k ∈ ks, k < h.nextTask
  pending : ∀ t ∈ h.tasks, t.uri = uri → ∀ k ∈ ks,
    k < t.id ∨ k = t.id ∧ t.stage = .forgetting ∨ t.stage.IsEarly ∧ h.IsBeaten t

theorem Sequenced.sameTurns (seq : Sequenced uri ks h) (same : SameTurns h h') :
    Sequenced uri ks h' where
  sorted := seq.sorted
  lt_nextTask := same.nextTask ▸ seq.lt_nextTask
  pending t ht := by
    rw [same.shrinks.isBeaten_iff]
    exact seq.pending t (same.tasks ▸ ht)

theorem Sequenced.begin (seq : Sequenced uri ks h) (ha : h.Assigned) (v : Uri) (work : Work) :
    Sequenced uri ks (h.begin v work) where
  sorted := seq.sorted
  lt_nextTask k hk := nextTask_begin ▸ Nat.lt_succ_of_lt (seq.lt_nextTask k hk)
  pending t ht hu k hk := by
    rw [tasks_begin ha.toWellKept] at ht
    rcases List.mem_append.mp ht with ht | ht
    · rcases seq.pending t ht hu k hk with hlt | heq | ⟨hearly, hb⟩
      · exact .inl hlt
      · exact .inr (.inl heq)
      · exact .inr (.inr ⟨hearly, ha.isBeaten_begin ht hb⟩)
    · obtain rfl := List.mem_singleton.mp ht
      exact .inl (seq.lt_nextTask k hk)

theorem Sequenced.beginAll (seq : Sequenced uri ks h) (ho : h.Orderly)
    (calls : List (Uri × Work)) : Sequenced uri ks (h.beginAll calls) := by
  induction calls generalizing h with
  | nil => exact seq
  | cons c calls ih => exact ih (seq.begin ho.toAssigned c.1 c.2) ho.begin

/-- A step of a task keeps what was published in sequence. -/
theorem Sequenced.step (seq : Sequenced uri ks h) (ho : h.Orderly) (ht : t ∈ h.tasks)
    (effect : TaskEffect h t h') : Sequenced uri ks h' where
  sorted := seq.sorted
  lt_nextTask := effect.shrinks.nextTask ▸ seq.lt_nextTask
  pending t' ht' hu k hk := by
    rw [effect.shrinks.isBeaten_iff]
    rcases effect.origin ho.toAssigned ht ht' with ⟨hmem, -⟩ | ⟨notForgetting, s, rfl, current⟩
    · exact seq.pending t' hmem hu k hk
    · rcases seq.pending t ht hu k hk with hlt | ⟨-, hf⟩ | ⟨hearly, hb⟩
      · exact .inl hlt
      · exact absurd hf notForgetting
      · -- A beaten task gets no further than to its comparison.
        rcases current with hs | current
        · exact .inr (.inr ⟨hs, hb⟩)
        · exact absurd (current hearly) hb.not_current

/-- A task that publishes comes after all that have published. -/
theorem Sequenced.lt_of_late (seq : Sequenced uri ks h) (ht : t ∈ h.tasks) (hu : t.uri = uri)
    (late : ¬ t.stage.IsEarly) (notForgetting : t.stage ≠ .forgetting) : ∀ k ∈ ks, k < t.id := by
  intro k hk
  rcases seq.pending t ht hu k hk with hlt | ⟨-, hf⟩ | ⟨hearly, -⟩
  · exact hlt
  · exact absurd hf notForgetting
  · exact absurd hearly late

/-- The tasks that come before one that is past its first comparison are early and beaten. -/
theorem Orderly.beaten_of_lt (ho : h.Orderly) (ht : t ∈ h.tasks) (late : ¬ t.stage.IsEarly)
    (ht' : t' ∈ h.tasks) (hu : t'.uri = t.uri) (hlt : t'.id < t.id) :
    t'.stage.IsEarly ∧ h.IsBeaten t' := by
  have hlook := ho.lookup_of_late ht late
  by_cases hs : t'.slot = t.slot
  · constructor
    · by_contra late'
      exact absurd (congrArg Task.id (ho.eq_of_late ht' ht hu late' late)) (Nat.ne_of_lt hlt)
    · obtain ⟨g, hg, hle⟩ := ho.generation_le t ht
      exact ⟨g, hs ▸ hg, Nat.lt_of_lt_of_le (ho.generation_lt t' ht' t ht hs hlt) hle⟩
  · refine ho.abandoned t' ht' ?_
    rw [hu, hlook]
    intro heq
    exact hs (Option.some.inj heq).symm

/-- A publication keeps what was published in sequence. -/
theorem Sequenced.publish (seq : Sequenced uri ks h) (ho : h.Orderly) (ht : t ∈ h.tasks)
    (hu : t.uri = uri) (late : ¬ t.stage.IsEarly) (notForgetting : t.stage ≠ .forgetting)
    (effect : TaskEffect h t h')
    (ending : ∀ t' ∈ h'.tasks, t'.id = t.id → t'.stage = .forgetting) :
    Sequenced uri (ks ++ [t.id]) h' := by
  have hstep := seq.step ho ht effect
  refine ⟨?_, ?_, ?_⟩
  · rw [List.pairwise_append]
    refine ⟨seq.sorted, List.pairwise_singleton _ _, ?_⟩
    intro k hk k' hk'
    rw [List.mem_singleton.mp hk']
    exact seq.lt_of_late ht hu late notForgetting k hk
  · intro k hk
    rcases List.mem_append.mp hk with hk | hk
    · exact hstep.lt_nextTask k hk
    · rw [List.mem_singleton.mp hk, effect.shrinks.nextTask]
      exact ho.task_lt t ht
  · intro t' ht' hu' k hk
    rcases List.mem_append.mp hk with hk | hk
    · exact hstep.pending t' ht' hu' k hk
    rw [List.mem_singleton.mp hk]
    rcases effect.origin ho.toAssigned ht ht' with ⟨hmem, hne⟩ | ⟨-, s, rfl, -⟩
    · rcases Nat.lt_or_gt_of_ne hne with hlt | hlt
      · rw [effect.shrinks.isBeaten_iff]
        exact .inr (.inr (ho.beaten_of_lt ht late hmem (hu'.trans hu.symm) hlt))
      · exact .inl hlt
    · exact .inr (.inl ⟨rfl, ending _ ht' rfl⟩)

/-- A step of a task publishes nothing for a document, or it is the publication of the task. -/
theorem TaskStep.publishers {a : Answer} {outs : List HubOutput} (step : TaskStep h t a h' outs)
    (uri : Uri) :
    outs.filterMap (publisher? uri) = [] ∨
      outs.filterMap (publisher? uri) = [t.id] ∧ t.uri = uri ∧ ¬ t.stage.IsEarly ∧
        t.stage ≠ .forgetting ∧ ∀ t' ∈ h'.tasks, t'.id = t.id → t'.stage = .forgetting := by
  have single {ds : List Diagnostic} {v : Option Int} (hu : t.uri = uri) :
      [HubOutput.published t.id t.uri ds v].filterMap (publisher? uri) = [t.id] := by
    simp [publisher?, hu]
  have other {ds : List Diagnostic} {v : Option Int} (hu : t.uri ≠ uri) :
      [HubOutput.published t.id t.uri ds v].filterMap (publisher? uri) = [] := by
    simp [publisher?, hu]
  have ended : ∀ t' ∈ (h.finish t).tasks, t'.id = t.id → t'.stage = .forgetting :=
    fun t' ht' hid => absurd hid (mem_tasks_finish.mp ht').2
  cases step with
  | clear _ stage | publish _ _ _ stage =>
    by_cases hu : t.uri = uri
    · exact .inr ⟨single hu, hu, stage ▸ id, by simp [stage], ended⟩
    · exact .inl (other hu)
  | delete _ stage =>
    by_cases hu : t.uri = uri
    · refine .inr ⟨single hu, hu, stage ▸ id, by simp [stage], ?_⟩
      exact fun t' ht' hid => stage_of_mem_moveTo ht' hid
    · exact .inl (other hu)
  | locate => exact .inl (by simp [publisher?, Function.comp_def])
  | _ => exact .inl rfl

/-- What was published in a run is in sequence. -/
theorem Run.sequenced (run : Run (ofSettings settings) ms h) (uri : Uri) :
    Sequenced uri (publishers uri ms) h := by
  induction run with
  | stay =>
    have htasks : (ofSettings settings).tasks = [] := rfl
    constructor <;> simp [publishers, htasks]
  | next m past legal ih =>
    have ho := past.orderly (orderly_ofSettings settings)
    rw [publishers_concat]
    cases MoveEffect.of_move? legal with
    | begins h₁ same eq silent =>
      rw [silent, eq, List.filterMap_nil, List.append_nil]
      exact (ih.sameTurns same).beginAll (ho.sameTurns same) _
    | steps t a _ known step =>
      have ht := (mem_of_task? known).1
      rcases step.publishers uri with hnone | ⟨hone, hu, late, notForgetting, ending⟩
      · rw [hnone, List.append_nil]
        exact ih.step ho ht step.effect
      · rw [hone]
        exact ih.publish ho ht hu late notForgetting step.effect ending

theorem Run.publishers_subset (run : Run (ofSettings settings) ms h) (uri : Uri) :
    publishers uri ms ⊆ triggers uri ms := by
  induction run with
  | stay => exact List.nil_subset _
  | next m past legal ih =>
    rename_i ms
    intro k hk
    rw [mem_triggers, started_concat]
    rw [publishers_concat] at hk
    rcases List.mem_append.mp hk with hk | hk
    · obtain ⟨t, ht, hu⟩ := mem_triggers.mp (ih hk)
      exact ⟨t, List.mem_append_left _ ht, hu⟩
    · cases MoveEffect.of_move? legal with
      | begins h₁ same eq silent =>
        rw [silent] at hk
        exact absurd hk List.not_mem_nil
      | steps t a _ known step =>
        rcases step.publishers uri with hnone | ⟨hone, hu, -⟩
        · rw [hnone] at hk
          exact absurd hk List.not_mem_nil
        · rw [hone] at hk
          have hmem := past.ledger.known t (mem_of_task? known).1
          exact ⟨t.key, List.mem_append_left _ hmem, hu, (List.mem_singleton.mp hk).symm⟩

/-- **Publications follow their triggers.** The tasks that published for a document are some of
those that were started for it, in the same order and each at most once. -/
theorem Run.publishers_sublist (run : Run (ofSettings settings) ms h) (uri : Uri) :
    (publishers uri ms).Sublist (triggers uri ms) := by
  have hsorted := (run.sequenced uri).sorted
  have hnodup : (publishers uri ms).Nodup := hsorted.imp Nat.ne_of_lt
  exact List.sublist_of_subperm_of_pairwise
    (List.subperm_of_subset hnodup (run.publishers_subset uri)) hsorted (run.triggers_sorted uri)

/-! ### The last trigger -/

/-- At the moment, a task compares its generation with that of its slot. -/
def Moment.Compares (m : Moment) (k : Nat) : Prop :=
  ∃ t a, m.before.task? k = some t ∧ t.stage.IsComparison ∧ m.move = .event (.advance k a)

/-- At the moment, the generation of a task is found to be the latest, and the task goes on. -/
def Moment.Passes (m : Moment) (k : Nat) : Prop :=
  ∃ t, m.before.task? k = some t ∧ m.before.isCurrent t.slot t.generation ∧
    m.after.task? k = some { t with stage := t.passed }

/-- At the moment, a task ends. -/
def Moment.Ends (m : Moment) (k : Nat) : Prop :=
  (m.before.task? k).isSome ∧ m.after.task? k = none

/-- A comparison that finds the generation to be the latest lets the task go on. -/
theorem Moment.passes_of_isCurrent (legal : m.IsLegal) {k : Nat} {a : Answer}
    (move : m.move = .event (.advance k a)) (ht : m.before.task? k = some t)
    (comparison : t.stage.IsComparison) (current : m.before.isCurrent t.slot t.generation) :
    m.Passes k := by
  refine ⟨t, ht, current, ?_⟩
  have hid : t.id = k := (mem_of_task? ht).2
  have hafter : m.after = m.before.moveTo k t.passed := by
    rw [IsLegal, move] at legal
    simp only [move?, step?, ht] at legal
    cases hstage : t.stage <;> simp only [hstage, Stage.IsComparison] at comparison
    all_goals
      simp only [stepTask, hstage, current, if_true, hid, Option.some.injEq, Prod.mk.injEq]
        at legal
      simp only [Task.passed, hstage]
      exact legal.1.symm
  rw [hafter]
  exact task?_moveTo ht _

/-- **The last trigger of a document is found to be the latest**, whenever it is compared. -/
theorem Run.last_passes (run : Run (ofSettings settings) ms h) {k : Nat}
    (last : (triggers uri ms).getLast? = some k) (hm : m ∈ ms) (compares : m.Compares k) :
    m.Passes k := by
  obtain ⟨t, a, ht, comparison, move⟩ := compares
  obtain ⟨past, future, rfl⟩ := List.append_of_mem hm
  obtain ⟨hpast, legal, -⟩ := run.split
  have hlatest := run.last_isLatest last hpast (mem_of_task? ht).1 (mem_of_task? ht).2
  exact m.passes_of_isCurrent legal move ht comparison (isCurrent_iff.mpr hlatest.2)

/-- A task that was started and is no longer there has ended at some moment. -/
theorem Run.ends_of_started (run : Run (ofSettings settings) ms h) {k : Nat}
    (hk : k ∈ triggers uri ms) (gone : h.task? k = none) : ∃ m ∈ ms, m.Ends k := by
  induction run with
  | stay => exact absurd hk List.not_mem_nil
  | next m past legal ih =>
    rename_i ms
    cases hbefore : m.before.task? k with
    | some t =>
      exact ⟨m, List.mem_append_right _ (List.mem_singleton_self m), by rw [hbefore]; rfl, gone⟩
    | none =>
      obtain ⟨t, ht, hu, hid⟩ := mem_triggers.mp hk
      rw [started_concat] at ht
      rcases List.mem_append.mp ht with ht | ht
      · obtain ⟨m', hm', hends⟩ := ih (mem_triggers.mpr ⟨t, ht, hu, hid⟩) hbefore
        exact ⟨m', List.mem_append_left _ hm', hends⟩
      · -- A task that was only just started is there.
        have hmem : t ∈ m.after.tasks := (List.mem_filter.mp ht).1
        simp only [task?, List.find?_eq_none, decide_eq_true_eq] at gone
        exact absurd hid (gone t hmem)

theorem Moment.Passes.not_ends {k : Nat} (passes : m.Passes k) : ¬ m.Ends k := by
  obtain ⟨t, -, -, hafter⟩ := passes
  rintro ⟨-, hnone⟩
  rw [hafter] at hnone
  cases hnone

/-- **Triggers take effect in order.** For every document and every run:

1. the tasks that publish for the document are some of those that were started for it, in the order
   of their triggers and each at most once;
2. the linter runs for the document at most once at a time;
3. the last trigger is found to be the latest at every comparison that it comes to; so if it has
   ended, it did not end at a comparison. -/
theorem Run.in_sequence (run : Run (ofSettings settings) ms h) (uri : Uri) :
    ((publishers uri ms).Sublist (triggers uri ms) ∧ (triggers uri ms).Nodup) ∧
    (∀ t ∈ h.tasks, ∀ t' ∈ h.tasks, t.uri = uri → t'.uri = uri → t.stage.IsRunning →
      t'.stage.IsRunning → t = t') ∧
    ∀ k, (triggers uri ms).getLast? = some k →
      (∀ m ∈ ms, m.Compares k → m.Passes k) ∧
      (h.task? k = none → ∃ m ∈ ms, m.Ends k ∧ ¬ m.Compares k) := by
  refine ⟨⟨run.publishers_sublist uri, (run.triggers_sorted uri).imp Nat.ne_of_lt⟩, ?_, ?_⟩
  · intro t ht t' ht' hu hu' running running'
    exact (run.orderly (orderly_ofSettings settings)).eq_of_late ht ht' (hu.trans hu'.symm)
      running.not_early running'.not_early
  · intro k last
    have passes : ∀ m ∈ ms, m.Compares k → m.Passes k := fun m hm => run.last_passes last hm
    refine ⟨passes, fun gone => ?_⟩
    obtain ⟨m, hm, hends⟩ := run.ends_of_started (List.mem_of_getLast? last) gone
    exact ⟨m, hm, hends, fun compares => (passes m hm compares).not_ends hends⟩

/-- A draft that is opened, closed and opened again. The first refresh comes to its turn last, on a
slot that was forgotten by then. -/
def reopening : List Move :=
  [openDraft 1, closeDraft] ++ takes 1 (List.replicate 4 .nothing) ++ [openDraft 1] ++
    takes 2 (lintAnswers .clean) ++ takes 0 (List.replicate 2 .nothing)

theorem reopening_in_sequence : ∃ ms h, Run (ofSettings .inMemory) ms h ∧ h.tasks = [] ∧
    triggers draft ms = [0, 1, 2] ∧ publishers draft ms = [1, 2] ∧
    (publishers draft ms).Sublist (triggers draft ms) ∧
    ∃ m ∈ ms, m.Ends 2 ∧ ¬ m.Compares 2 := by
  have seen : ((ofSettings .inMemory).follow reopening).map
      (fun p => (p.2.tasks, triggers draft p.1, publishers draft p.1)) =
        some ([], [0, 1, 2], [1, 2]) := by rfl
  obtain ⟨ms, h, run, -, seen⟩ := Run.exists_of_follow seen
  simp only [Prod.mk.injEq] at seen
  obtain ⟨ended, started, published⟩ := seen
  obtain ⟨⟨sublist, -⟩, -, last⟩ := run.in_sequence draft
  refine ⟨ms, h, run, ended, started, published, sublist, ?_⟩
  exact (last 2 (by rw [started]; rfl)).2 (by rw [task?, ended]; rfl)

end Hub

end LintBridge
