import LintBridge.Proofs.Hub.Orderly
import Mathlib.Data.List.Nodup

/-!
# The tasks that were started

The *ledger* of a run is the list of all tasks that were ever started in it, in the order of their
triggers. It relates what was started to what is there: a task that has not ended is the latest of
its document if and only if no later one was started for it. This holds however often the slot of
the document has been forgotten and made anew.

Tasks are numbered along the ledger, so numbers say which of two triggers came first, and whether a
task was started before or after some moment of the run.

## Main definitions

* `Hub.newTasks` — the tasks that several triggers start.
* `Hub.Ledger` — the tasks that were started, and what is known of those that have not ended.

## Main results

* `Hub.TaskEffect.origin` — where the tasks after a step come from.
* `Hub.Run.ledger` — the tasks that were started in a run are its ledger.
* `Hub.Run.map_id_started` — tasks are numbered in the order of their triggers.
* `Hub.Run.last_isLatest` — the task of the last trigger of a document is the latest of it.
-/

namespace LintBridge

namespace Hub

variable {h h' h₁ : Hub} {t t' : Task} {uri : Uri} {work : Work} {all : List Task}
  {ms past future l r : List Moment} {c m : Moment} {settings : SettingsStore}

/-! ### Where the tasks after a step come from -/

/-- A task that is left after a step is another one, unchanged, or the one that took the step. If
that one was early and is no longer, its generation was the latest. -/
theorem TaskEffect.origin (ha : h.Assigned) (ht : t ∈ h.tasks) (effect : TaskEffect h t h')
    (ht' : t' ∈ h'.tasks) :
    t' ∈ h.tasks ∧ t'.id ≠ t.id ∨
      t.stage ≠ .forgetting ∧ ∃ s, t' = { t with stage := s } ∧
        (s.IsEarly ∨ (t.stage.IsEarly → h.isCurrent t.slot t.generation)) := by
  have moved {h₁ : Hub} {s : Stage} (same : h₁.tasks = h.tasks)
      (ht' : t' ∈ (h₁.moveTo t.id s).tasks) :
      t' ∈ h.tasks ∧ t'.id ≠ t.id ∨ t' = { t with stage := s } := by
    rcases mem_tasks_moveTo.mp ht' with ⟨t₀, ht₀, hid, rfl⟩ | ⟨ht', hid⟩
    · obtain rfl := ha.eq_of_id (same ▸ ht₀) ht hid
      exact .inr rfl
    · exact .inl ⟨same ▸ ht', hid⟩
  cases effect with
  | enters queued _ eq =>
    rcases moved rfl (eq ▸ ht') with hother | rfl
    · exact .inl hother
    · exact .inr ⟨queued ▸ nofun, _, rfl, .inl trivial⟩
  | goesOn s h₁ _ _ current notForgetting same eq =>
    rcases moved same.tasks (eq ▸ ht') with hother | rfl
    · exact .inl hother
    · exact .inr ⟨notForgetting, s, rfl, .inr current⟩
  | ends _ _ eq => exact .inl (mem_tasks_finish.mp (eq ▸ ht'))
  | forgets _ eq =>
    obtain ⟨hmem, hid⟩ := mem_tasks_finish.mp (eq ▸ ht')
    exact .inl ⟨tasks_forget ▸ hmem, hid⟩

/-- A step takes the slot in use from a document only if the task forgets it. -/
theorem TaskEffect.lookup (effect : TaskEffect h t h') (v : Uri) :
    h'.registry.lookup v = h.registry.lookup v ∨
      v = t.uri ∧ h.generation? t.slot = some t.generation ∧
        h.registry.lookup t.uri = some t.slot ∧ ∀ t' ∈ h'.tasks, t'.id ≠ t.id := by
  cases effect with
  | enters _ _ eq => exact .inl (eq ▸ rfl)
  | goesOn s h₁ _ _ _ _ same eq => exact .inl (eq ▸ same.registry ▸ rfl)
  | ends _ _ eq => exact .inl (eq ▸ rfl)
  | forgets _ eq =>
    have hlook : h'.registry.lookup v =
        (h.forget t.uri t.slot t.generation).registry.lookup v := eq ▸ rfl
    rw [hlook, lookup_forget]
    split
    · next hf =>
      exact .inr ⟨hf.1, hf.2.1, hf.2.2, fun t' ht' => (mem_tasks_finish.mp (eq ▸ ht')).2⟩
    · exact .inl rfl

/-- A task that is the latest of its document stays so while other tasks, or it itself, take
steps. -/
theorem TaskEffect.isLatest (ha : h.Assigned) (ht : t ∈ h.tasks) (effect : TaskEffect h t h')
    (ht' : t' ∈ h'.tasks) (latest : h.IsLatest t') : h'.IsLatest t' := by
  refine ⟨?_, (effect.shrinks.generation t'.slot).trans latest.2⟩
  rcases effect.lookup t'.uri with heq | ⟨huri, current, hreg, hgone⟩
  · exact heq.trans latest.1
  · -- The slot is the one of the task that forgets it, and so is the generation.
    exfalso
    rcases effect.origin ha ht ht' with ⟨hmem, hid⟩ | ⟨-, s, rfl, -⟩
    · have hslot : t'.slot = t.slot := Option.some.inj (latest.1.symm.trans (huri ▸ hreg))
      have hgen : t'.generation = t.generation :=
        Option.some.inj (latest.2.symm.trans (hslot ▸ current))
      rcases Nat.lt_or_gt_of_ne hid with hlt | hlt
      · exact absurd (ha.generation_lt t' hmem t ht hslot hlt) (by omega)
      · exact absurd (ha.generation_lt t ht t' hmem hslot.symm hlt) (by omega)
    · exact hgone _ ht' rfl

/-! ### The tasks that a move starts -/

/-- The tasks that several triggers start, one after another. -/
def newTasks (h : Hub) : List (Uri × Work) → List Task
  | [] => []
  | (uri, work) :: calls => h.newTask uri work :: (h.begin uri work).newTasks calls

theorem tasks_beginAll (hk : h.WellKept) (calls : List (Uri × Work)) :
    (h.beginAll calls).tasks = h.tasks ++ h.newTasks calls := by
  induction calls generalizing h with
  | nil => simp [beginAll, newTasks]
  | cons c calls ih =>
    have hcons : h.beginAll (c :: calls) = (h.begin c.1 c.2).beginAll calls := rfl
    rw [hcons, ih hk.begin, tasks_begin hk, newTasks, List.append_assoc, List.singleton_append]

theorem tasks_of_begins {calls : List (Uri × Work)} (hk : h.WellKept) (same : SameTurns h h₁)
    (eq : h' = h₁.beginAll calls) : h'.tasks = h.tasks ++ h₁.newTasks calls := by
  rw [eq, tasks_beginAll (same.wellKept hk), same.tasks]

theorem le_id_of_mem_newTasks {calls : List (Uri × Work)} (ht : t ∈ h.newTasks calls) :
    h.nextTask ≤ t.id := by
  induction calls generalizing h with
  | nil => exact absurd ht List.not_mem_nil
  | cons c calls ih =>
    rcases List.mem_cons.mp ht with rfl | ht
    · exact Nat.le_refl _
    · have hle := ih ht
      rw [nextTask_begin] at hle
      exact Nat.le_of_succ_le hle

theorem stage_of_mem_newTasks {calls : List (Uri × Work)} (ht : t ∈ h.newTasks calls) :
    t.stage = .queued := by
  induction calls generalizing h with
  | nil => exact absurd ht List.not_mem_nil
  | cons c calls ih =>
    rcases List.mem_cons.mp ht with rfl | ht
    · rfl
    · exact ih ht

theorem mem_of_mem_newTasks {calls : List (Uri × Work)} (ht : t ∈ h.newTasks calls) :
    (t.uri, t.work) ∈ calls := by
  induction calls generalizing h with
  | nil => exact absurd ht List.not_mem_nil
  | cons c calls ih =>
    rcases List.mem_cons.mp ht with rfl | ht
    · exact List.mem_cons_self
    · exact List.mem_cons_of_mem _ (ih ht)

private theorem filter_id_le (ha : h.Assigned) :
    (h.tasks.filter fun t => h.nextTask ≤ t.id) = [] := by
  simp only [List.filter_eq_nil_iff, decide_eq_true_eq, Nat.not_le]
  exact ha.task_lt

/-- A move that starts tasks starts those of its triggers. -/
theorem started_of_begins {calls : List (Uri × Work)} (ha : m.before.Assigned)
    (same : SameTurns m.before h₁) (eq : m.after = h₁.beginAll calls) :
    m.started = h₁.newTasks calls := by
  have hnew : (h₁.newTasks calls).filter (fun t => m.before.nextTask ≤ t.id) =
      h₁.newTasks calls := by
    simp only [List.filter_eq_self, decide_eq_true_eq]
    intro t ht
    exact same.nextTask ▸ le_id_of_mem_newTasks ht
  rw [Moment.started, tasks_of_begins ha.toWellKept same eq, List.filter_append, hnew,
    filter_id_le ha, List.nil_append]

/-- A step of a task starts no task. -/
theorem started_of_shrinks (ha : m.before.Assigned) (shrinks : Shrinks m.before m.after) :
    m.started = [] := by
  have hnext := shrinks.nextTask
  rw [Moment.started, ← hnext]
  exact filter_id_le (ha.shrinks shrinks)

/-! ### The ledger -/

/-- All tasks that were ever started, in order. The tasks of the hub are among them, and a task is
the latest of its document if and only if no later one was started for it. -/
structure Ledger (all : List Task) (h : Hub) : Prop where
  map_id : all.map Task.id = List.range h.nextTask
  known : ∀ t ∈ h.tasks, t.key ∈ all
  latest : ∀ t ∈ h.tasks, (∀ t' ∈ all, t'.uri = t.uri → t'.id ≤ t.id) → h.IsLatest t
  last : ∀ t ∈ h.tasks, h.IsLatest t → ∀ t' ∈ all, t'.uri = t.uri → t'.id ≤ t.id

theorem SameTurns.isLatest_iff (same : SameTurns h h') : h'.IsLatest t ↔ h.IsLatest t := by
  rw [IsLatest, IsLatest, same.registry, generation?_congr same.slots]

/-- A trigger makes its task the latest of its document, and no other task is. -/
theorem isLatest_begin_iff (ha : h.Assigned) (ht : t ∈ h.tasks) :
    (h.begin uri work).IsLatest t ↔ t.uri ≠ uri ∧ h.IsLatest t := by
  rw [IsLatest, lookup_begin, generation?_begin ha.toWellKept]
  by_cases hu : t.uri = uri
  · rw [if_pos hu]
    refine iff_of_false ?_ fun hne => hne.1 hu
    rintro ⟨hslot, hgen⟩
    rw [if_pos (Option.some.inj hslot).symm] at hgen
    have hlt := ha.lt_nextGeneration ht (Option.some.inj hslot).symm
    exact absurd (Option.some.inj hgen) (Nat.ne_of_gt hlt)
  · rw [if_neg hu, if_neg (ha.slotFor_ne ht hu)]
    exact (and_iff_right hu).symm

theorem Ledger.sameTurns (ledger : Ledger all h) (same : SameTurns h h') : Ledger all h' where
  map_id := same.nextTask ▸ ledger.map_id
  known t ht := ledger.known t (same.tasks ▸ ht)
  latest t ht hlast := by
    rw [same.isLatest_iff]
    exact ledger.latest t (same.tasks ▸ ht) hlast
  last t ht hl := ledger.last t (same.tasks ▸ ht) (same.isLatest_iff.mp hl)

theorem Ledger.id_lt (ledger : Ledger all h) (t : Task) (ht : t ∈ all) : t.id < h.nextTask := by
  have hmem := List.mem_map_of_mem (f := Task.id) ht
  rw [ledger.map_id] at hmem
  exact List.mem_range.mp hmem

theorem Ledger.begin (ledger : Ledger all h) (ha : h.Assigned) :
    Ledger (all ++ [h.newTask uri work]) (h.begin uri work) where
  map_id := by
    rw [List.map_append, ledger.map_id, nextTask_begin, List.range_succ]
    rfl
  known t ht := by
    rw [tasks_begin ha.toWellKept] at ht
    rcases List.mem_append.mp ht with ht | ht
    · exact List.mem_append_left _ (ledger.known t ht)
    · obtain rfl := List.mem_singleton.mp ht
      exact List.mem_append_right _ (List.mem_singleton_self _)
  latest t ht hlast := by
    rw [tasks_begin ha.toWellKept] at ht
    rcases List.mem_append.mp ht with ht | ht
    · rw [isLatest_begin_iff ha ht]
      refine ⟨?_, ledger.latest t ht fun t' ht' => hlast t' (List.mem_append_left _ ht')⟩
      intro hu
      have hle := hlast _ (List.mem_append_right _ (List.mem_singleton_self _)) hu.symm
      exact absurd (ha.task_lt t ht) (Nat.not_lt_of_le hle)
    · obtain rfl := List.mem_singleton.mp ht
      rw [IsLatest, lookup_begin, generation?_begin ha.toWellKept]
      exact ⟨if_pos rfl, if_pos rfl⟩
  last t ht hl t' ht' hu := by
    rw [tasks_begin ha.toWellKept] at ht
    rcases List.mem_append.mp ht with ht | ht
    · obtain ⟨hne, hl⟩ := (isLatest_begin_iff ha ht).mp hl
      rcases List.mem_append.mp ht' with ht' | ht'
      · exact ledger.last t ht hl t' ht' hu
      · obtain rfl := List.mem_singleton.mp ht'
        exact absurd hu.symm hne
    · obtain rfl := List.mem_singleton.mp ht
      rcases List.mem_append.mp ht' with ht' | ht'
      · exact Nat.le_of_lt (ledger.id_lt t' ht')
      · exact Nat.le_of_eq (by rw [List.mem_singleton.mp ht'])

theorem Ledger.beginAll (ledger : Ledger all h) (ho : h.Orderly) (calls : List (Uri × Work)) :
    Ledger (all ++ h.newTasks calls) (h.beginAll calls) := by
  induction calls generalizing h all with
  | nil => simpa [beginAll, newTasks] using ledger
  | cons c calls ih =>
    have hfirst : Ledger (all ++ [h.newTask c.1 c.2]) (h.begin c.1 c.2) :=
      ledger.begin ho.toAssigned
    have hnext := ih hfirst ho.begin
    rwa [List.append_assoc, List.singleton_append] at hnext

theorem Ledger.step (ledger : Ledger all h) (ha : h.Assigned) (ht : t ∈ h.tasks)
    (effect : TaskEffect h t h') : Ledger all h' where
  map_id := effect.shrinks.nextTask ▸ ledger.map_id
  known t' ht' := by
    obtain ⟨t₀, ht₀, hkey⟩ := effect.shrinks.origin ht'
    exact hkey ▸ ledger.known t₀ ht₀
  latest t' ht' hlast := by
    obtain ⟨t₀, ht₀, hkey⟩ := effect.shrinks.origin ht'
    obtain ⟨hid, huri, -, hslot, hgen⟩ := Task.key_eq_iff.mp hkey
    refine effect.isLatest ha ht ht' ?_
    have hlatest := ledger.latest t₀ ht₀ (by rwa [hid, huri])
    rwa [IsLatest, huri, hslot, hgen] at hlatest
  last t' ht' hl := by
    obtain ⟨t₀, ht₀, hkey⟩ := effect.shrinks.origin ht'
    obtain ⟨hid, huri, -, hslot, hgen⟩ := Task.key_eq_iff.mp hkey
    have hl₀ : h.IsLatest t₀ := by
      rw [IsLatest, huri, hslot, hgen]
      exact ⟨effect.shrinks.registry _ _ hl.1, (effect.shrinks.generation _).symm.trans hl.2⟩
    rw [← hid, ← huri]
    exact ledger.last t₀ ht₀ hl₀

theorem ledger_ofSettings (settings : SettingsStore) : Ledger [] (ofSettings settings) := by
  have htasks : (ofSettings settings).tasks = [] := rfl
  constructor
  · rfl
  all_goals simp [htasks]

/-- The tasks that were started in a run, and what is known of those that have not ended. -/
theorem Run.ledger (run : Run (ofSettings settings) ms h) : Ledger (started ms) h := by
  induction run with
  | stay => exact ledger_ofSettings settings
  | next m past legal ih =>
    have ho := past.orderly (orderly_ofSettings settings)
    rw [started_concat]
    cases MoveEffect.of_move? legal with
    | begins h₁ same eq _ =>
      rw [started_of_begins ho.toAssigned same eq, eq]
      exact (ih.sameTurns same).beginAll (ho.sameTurns same) _
    | steps t a _ known step =>
      rw [started_of_shrinks ho.toAssigned step.effect.shrinks, List.append_nil]
      exact ih.step ho.toAssigned (mem_of_task? known).1 step.effect

/-- **Tasks are numbered in the order of their triggers.** -/
theorem Run.map_id_started (run : Run (ofSettings settings) ms h) :
    (started ms).map Task.id = List.range h.nextTask :=
  run.ledger.map_id

/-- The numbers of tasks are not shared. -/
theorem Run.eq_of_id_started (run : Run (ofSettings settings) ms h) (ht : t ∈ started ms)
    (ht' : t' ∈ started ms) (hid : t.id = t'.id) : t = t' := by
  have hnodup : ((started ms).map Task.id).Nodup := by
    rw [run.map_id_started]
    exact List.nodup_range
  exact List.inj_on_of_nodup_map hnodup ht ht' hid

/-- A task with the number of a trigger is for the document of the trigger. -/
theorem Run.uri_of_mem_triggers (run : Run (ofSettings settings) ms h) (ht : t.key ∈ started ms)
    (hid : t.id ∈ triggers uri ms) : t.uri = uri := by
  obtain ⟨t₁, ht₁, hu₁, hid₁⟩ := mem_triggers.mp hid
  exact (congrArg Task.uri (run.eq_of_id_started ht ht₁ hid₁.symm)).trans hu₁

theorem Run.triggers_sorted (run : Run (ofSettings settings) ms h) (uri : Uri) :
    (triggers uri ms).Pairwise (· < ·) := by
  have hids : ((started ms).map Task.id).Pairwise (· < ·) := by
    rw [run.map_id_started]
    exact List.pairwise_lt_range
  exact hids.sublist (List.filter_sublist.map Task.id)

/-! ### Before and after -/

theorem started_append : started (past ++ future) = started past ++ started future := by
  simp [started]

theorem triggers_append (uri : Uri) (ms ms' : List Moment) :
    triggers uri (ms ++ ms') = triggers uri ms ++ triggers uri ms' := by
  simp [triggers, started_append]

theorem mem_started_of_mem (hm : m ∈ ms) (ht : t ∈ m.started) : t ∈ started ms :=
  List.mem_flatMap.mpr ⟨m, hm, ht⟩

/-- The tasks that were started before a moment have smaller numbers than any task started at it or
later. -/
theorem Run.id_lt_of_past (run : Run (ofSettings settings) (past ++ c :: future) h)
    (ht : t ∈ started past) : t.id < c.before.nextTask :=
  run.split.1.ledger.id_lt t ht

/-- The tasks that were started at a moment or later have greater numbers than any task before. -/
theorem Run.le_id_of_future (run : Run (ofSettings settings) (past ++ c :: future) h)
    (ht : t ∈ started (c :: future)) : c.before.nextTask ≤ t.id := by
  refine Nat.le_of_not_lt fun hlt => ?_
  have hmem : t.id ∈ (started past).map Task.id := by
    rw [run.split.1.map_id_started]
    exact List.mem_range.mpr hlt
  have hnodup : ((started past).map Task.id ++ (started (c :: future)).map Task.id).Nodup := by
    rw [← List.map_append, ← started_append, run.map_id_started]
    exact List.nodup_range
  exact (List.nodup_append.mp hnodup).2.2 _ hmem _ (List.mem_map_of_mem ht) rfl

/-- A moment that comes after the start of a task that was started at `c` or later is itself later
than `c`. -/
theorem Run.mem_future (run : Run (ofSettings settings) (past ++ c :: future) h)
    (split : past ++ c :: future = l ++ m :: r) (ht : t ∈ started l)
    (hle : c.before.nextTask ≤ t.id) : m ∈ future := by
  have hlt {past' : List Moment} (hpast : past = l ++ past') : False := by
    have hmem : t ∈ started past := hpast ▸ started_append ▸ List.mem_append_left _ ht
    exact absurd (run.id_lt_of_past hmem) (Nat.not_lt_of_le hle)
  rcases List.append_eq_append_iff.mp split with ⟨l', hl, heq⟩ | ⟨past', hpast, -⟩
  · cases l' with
    | nil =>
      have hpast : past = l ++ [] := by rw [hl, List.append_nil, List.append_nil]
      exact (hlt hpast).elim
    | cons c' l' =>
      obtain ⟨-, rfl⟩ := List.cons.inj heq
      exact List.mem_append_right _ List.mem_cons_self
  · exact (hlt hpast).elim

/-! ### The last trigger -/

theorem le_of_getLast? {ks : List Nat} {k i : Nat} (sorted : ks.Pairwise (· < ·))
    (last : ks.getLast? = some k) (hi : i ∈ ks) : i ≤ k := by
  obtain ⟨init, rfl⟩ := List.getLast?_eq_some_iff.mp last
  rcases List.mem_append.mp hi with hi | hi
  · exact Nat.le_of_lt ((List.pairwise_append.mp sorted).2.2 i hi k (List.mem_singleton_self k))
  · exact Nat.le_of_eq (List.mem_singleton.mp hi)

/-- No task of a document comes after its last one. -/
theorem Run.le_last (run : Run (ofSettings settings) ms h) {k : Nat}
    (last : (triggers uri ms).getLast? = some k) (ht : t ∈ started ms) (hu : t.uri = uri) :
    t.id ≤ k :=
  le_of_getLast? (run.triggers_sorted uri) last (mem_triggers.mpr ⟨t, ht, hu, rfl⟩)

/-- The task of the last trigger of a document is the latest of it as long as it has not ended. -/
theorem Run.last_isLatest (run : Run (ofSettings settings) (ms ++ future) h) {k : Nat}
    (last : (triggers uri (ms ++ future)).getLast? = some k) {mid : Hub}
    (past : Run (ofSettings settings) ms mid) (ht : t ∈ mid.tasks) (hid : t.id = k) :
    mid.IsLatest t := by
  have hkey : t.key ∈ started (ms ++ future) :=
    started_append ▸ List.mem_append_left _ (past.ledger.known t ht)
  have hu : t.uri = uri := run.uri_of_mem_triggers hkey (hid ▸ List.mem_of_getLast? last)
  refine past.ledger.latest t ht fun t' ht' hu' => ?_
  rw [hid]
  exact run.le_last last (started_append ▸ List.mem_append_left _ ht') (hu'.trans hu)

end Hub

end LintBridge
