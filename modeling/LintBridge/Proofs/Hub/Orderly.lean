import LintBridge.Proofs.Hub.Run
import Mathlib.Data.List.Nodup

/-!
# The order of tasks

The invariant that ties generations, turns and slots together. It has two layers.

* The slots and the tasks of a hub are *assigned* (`Hub.Assigned`) when every task belongs to a slot
  of its own document, and later tasks of a slot have later generations. A step of a task takes away
  from what is assigned and never adds to it (`Hub.Shrinks`); only triggers add.
* A hub is *orderly* (`Hub.Orderly`) when, in addition, a task past its entry holds the turn of its
  slot, and a task whose slot is no longer in use for its document is early and beaten: it has still
  to compare its generation, and a newer trigger has used its slot.

The last condition is what makes forgetting slots safe. A slot is forgotten by the task that holds
its turn, while no newer trigger has used it; so every other task of the slot waits and is beaten.

## Main definitions

* `Task.key` — a task without its stage.
* `Hub.IsBeaten`, `Hub.IsLatest` — a newer trigger has used the slot of a task, or no newer trigger
  has come for its document.
* `Hub.Assigned`, `Hub.Shrinks`, `Hub.Orderly`.

## Main results

* `Hub.Orderly.begin`, `Hub.Orderly.step` — what one move preserves.
* `Hub.Run.orderly` — a hub is orderly after any run.
-/

namespace LintBridge

/-- A task without its stage. -/
def Task.key (t : Task) : Task := { t with stage := .queued }

theorem Task.key_eq_iff {t t' : Task} : t.key = t'.key ↔
    t.id = t'.id ∧ t.uri = t'.uri ∧ t.work = t'.work ∧ t.slot = t'.slot ∧
      t.generation = t'.generation := by
  simp only [key, mk.injEq, and_true]

namespace Hub

variable {h h' h₁ : Hub} {t t' : Task} {uri : Uri} {work : Work}

/-- A newer trigger has used the slot of the task. -/
def IsBeaten (h : Hub) (t : Task) : Prop :=
  ∃ g, h.generation? t.slot = some g ∧ t.generation < g

/-- The slot of the task is in use for its document, and no newer trigger has used it. -/
def IsLatest (h : Hub) (t : Task) : Prop :=
  h.registry.lookup t.uri = some t.slot ∧ h.generation? t.slot = some t.generation

theorem IsBeaten.not_current (hb : h.IsBeaten t) : ¬ h.isCurrent t.slot t.generation := by
  obtain ⟨g, hg, hlt⟩ := hb
  rw [isCurrent_iff, hg]
  intro heq
  exact absurd (Option.some.inj heq) (Nat.ne_of_gt hlt)

/-! ### What a step of a task takes away -/

/-- A hub with the same slots as another, and no more slots in use and tasks. -/
structure Shrinks (h h' : Hub) : Prop where
  ids : h'.slots.map Slot.id = h.slots.map Slot.id
  generation : ∀ i, h'.generation? i = h.generation? i
  registry : ∀ u i, h'.registry.lookup u = some i → h.registry.lookup u = some i
  keys : (h'.tasks.map Task.key).Sublist (h.tasks.map Task.key)
  nextTask : h'.nextTask = h.nextTask

theorem Shrinks.trans (first : Shrinks h h₁) (second : Shrinks h₁ h') : Shrinks h h' where
  ids := second.ids.trans first.ids
  generation i := (second.generation i).trans (first.generation i)
  registry u i hu := first.registry u i (second.registry u i hu)
  keys := second.keys.trans first.keys
  nextTask := second.nextTask.trans first.nextTask

theorem SameTurns.shrinks (same : SameTurns h h') : Shrinks h h' where
  ids := by rw [same.slots]
  generation _ := generation?_congr same.slots
  registry u i hu := same.registry ▸ hu
  keys := by rw [same.tasks]
  nextTask := same.nextTask

private theorem ids_changeSlot {f : Slot → Slot} (hf : ∀ s, (f s).id = s.id) (i : Nat) :
    (h.changeSlot i f).slots.map Slot.id = h.slots.map Slot.id := by
  simp only [changeSlot, List.map_map]
  refine List.map_congr_left fun s _ => ?_
  simp only [Function.comp_apply]
  split
  · exact hf s
  · rfl

theorem shrinks_giveTurn (i k : Nat) : Shrinks h (h.giveTurn i k) where
  ids := ids_changeSlot (f := fun s => { s with holder := some k }) (fun _ => rfl) i
  generation _ := generation?_giveTurn
  registry _ _ hu := hu
  keys := .refl _
  nextTask := rfl

theorem shrinks_moveTo (k : Nat) (s : Stage) : Shrinks h (h.moveTo k s) where
  ids := rfl
  generation _ := generation?_moveTo s
  registry _ _ hu := hu
  keys := by
    have hkeys : (h.moveTo k s).tasks.map Task.key = h.tasks.map Task.key := by
      simp only [moveTo, List.map_map]
      refine List.map_congr_left fun t _ => ?_
      simp only [Function.comp_apply]
      split <;> rfl
    rw [hkeys]
  nextTask := rfl

theorem shrinks_finish (t : Task) : Shrinks h (h.finish t) where
  ids := ids_changeSlot (f := fun s => { s with holder := none }) (fun _ => rfl) t.slot
  generation _ := generation?_finish t
  registry _ _ hu := hu
  keys := List.filter_sublist.map _
  nextTask := rfl

theorem shrinks_forget (uri : Uri) (i g : Nat) : Shrinks h (h.forget uri i g) where
  ids := by rw [slots_forget]
  generation _ := generation?_congr slots_forget
  registry u j hu := by
    rw [lookup_forget] at hu
    split at hu
    · cases hu
    · exact hu
  keys := by rw [tasks_forget]
  nextTask := nextTask_forget

theorem TaskEffect.shrinks (effect : TaskEffect h t h') : Shrinks h h' := by
  cases effect with
  | enters _ _ eq => exact eq ▸ (shrinks_giveTurn t.slot t.id).trans (shrinks_moveTo t.id _)
  | goesOn s h₁ _ _ _ _ same eq => exact eq ▸ same.shrinks.trans (shrinks_moveTo t.id s)
  | ends _ _ eq => exact eq ▸ shrinks_finish t
  | forgets _ eq => exact eq ▸ (shrinks_forget _ _ _).trans (shrinks_finish t)

/-- Every task that is left was there before, perhaps at another stage. -/
theorem Shrinks.origin (shrinks : Shrinks h h') (ht : t ∈ h'.tasks) :
    ∃ t₀ ∈ h.tasks, t₀.key = t.key :=
  List.mem_map.mp (shrinks.keys.subset (List.mem_map_of_mem ht))

theorem Shrinks.isBeaten_iff (shrinks : Shrinks h h') : h'.IsBeaten t ↔ h.IsBeaten t := by
  simp only [IsBeaten, shrinks.generation]

theorem Shrinks.wellKept (shrinks : Shrinks h h') (hk : h.WellKept) : h'.WellKept where
  id_lt s hs := by
    have hlen : h'.slots.length = h.slots.length := by
      simpa using congrArg List.length shrinks.ids
    have hid : s.id ∈ h.slots.map Slot.id := shrinks.ids ▸ List.mem_map_of_mem hs
    obtain ⟨s₀, hs₀, heq⟩ := List.mem_map.mp hid
    rw [hlen, ← heq]
    exact hk.id_lt s₀ hs₀
  registered u i hu := by
    rw [shrinks.generation]
    exact hk.registered u i (shrinks.registry u i hu)

/-! ### Assigned slots and tasks -/

/-- Every task belongs to a slot of its own document, documents do not share slots, and later tasks
of a slot have later generations. -/
structure Assigned (h : Hub) : Prop extends WellKept h where
  task_lt : ∀ t ∈ h.tasks, t.id < h.nextTask
  tasks_sorted : (h.tasks.map Task.id).Pairwise (· < ·)
  generation_le : ∀ t ∈ h.tasks, ∃ g, h.generation? t.slot = some g ∧ t.generation ≤ g
  registry_inj : ∀ u v i, h.registry.lookup u = some i → h.registry.lookup v = some i → u = v
  owner : ∀ t ∈ h.tasks, ∀ u, h.registry.lookup u = some t.slot → u = t.uri
  sameOwner : ∀ t ∈ h.tasks, ∀ t' ∈ h.tasks, t.slot = t'.slot → t.uri = t'.uri
  generation_lt : ∀ t ∈ h.tasks, ∀ t' ∈ h.tasks, t.slot = t'.slot → t.id < t'.id →
    t.generation < t'.generation

theorem Assigned.eq_of_id (ha : h.Assigned) (ht : t ∈ h.tasks) (ht' : t' ∈ h.tasks)
    (hid : t.id = t'.id) : t = t' :=
  List.inj_on_of_nodup_map (ha.tasks_sorted.imp Nat.ne_of_lt) ht ht' hid

theorem Assigned.task?_of_mem (ha : h.Assigned) (ht : t ∈ h.tasks) : h.task? t.id = some t := by
  have known : (h.task? t.id).isSome := List.find?_isSome.mpr ⟨t, ht, decide_eq_true rfl⟩
  obtain ⟨t', ht'⟩ := Option.isSome_iff_exists.mp known
  obtain ⟨hmem, hid⟩ := mem_of_task? ht'
  rw [ht', ha.eq_of_id hmem ht hid]

theorem Assigned.slot_lt (ha : h.Assigned) (ht : t ∈ h.tasks) : t.slot < h.slots.length := by
  obtain ⟨g, hg, -⟩ := ha.generation_le t ht
  exact ha.lt_length (by rw [hg]; rfl)

theorem Assigned.shrinks (ha : h.Assigned) (shrinks : Shrinks h h') : h'.Assigned where
  toWellKept := shrinks.wellKept ha.toWellKept
  task_lt t ht := by
    obtain ⟨t₀, ht₀, hkey⟩ := shrinks.origin ht
    rw [shrinks.nextTask, ← (Task.key_eq_iff.mp hkey).1]
    exact ha.task_lt t₀ ht₀
  tasks_sorted := by
    have hids (l : List Task) : l.map Task.id = (l.map Task.key).map Task.id := by
      rw [List.map_map]
      rfl
    rw [hids]
    exact (hids h.tasks ▸ ha.tasks_sorted).sublist (shrinks.keys.map Task.id)
  generation_le t ht := by
    obtain ⟨t₀, ht₀, hkey⟩ := shrinks.origin ht
    obtain ⟨-, -, -, hslot, hgen⟩ := Task.key_eq_iff.mp hkey
    rw [shrinks.generation, ← hslot, ← hgen]
    exact ha.generation_le t₀ ht₀
  registry_inj u v i hu hv :=
    ha.registry_inj u v i (shrinks.registry u i hu) (shrinks.registry v i hv)
  owner t ht u hu := by
    obtain ⟨t₀, ht₀, hkey⟩ := shrinks.origin ht
    obtain ⟨-, huri, -, hslot, -⟩ := Task.key_eq_iff.mp hkey
    rw [← huri]
    exact ha.owner t₀ ht₀ u (hslot ▸ shrinks.registry u t.slot hu)
  sameOwner t ht t' ht' hs := by
    obtain ⟨t₀, ht₀, hkey⟩ := shrinks.origin ht
    obtain ⟨t₁, ht₁, hkey'⟩ := shrinks.origin ht'
    obtain ⟨-, huri, -, hslot, -⟩ := Task.key_eq_iff.mp hkey
    obtain ⟨-, huri', -, hslot', -⟩ := Task.key_eq_iff.mp hkey'
    rw [← huri, ← huri']
    exact ha.sameOwner t₀ ht₀ t₁ ht₁ (hslot.trans (hs.trans hslot'.symm))
  generation_lt t ht t' ht' hs hlt := by
    obtain ⟨t₀, ht₀, hkey⟩ := shrinks.origin ht
    obtain ⟨t₁, ht₁, hkey'⟩ := shrinks.origin ht'
    obtain ⟨hid, -, -, hslot, hgen⟩ := Task.key_eq_iff.mp hkey
    obtain ⟨hid', -, -, hslot', hgen'⟩ := Task.key_eq_iff.mp hkey'
    rw [← hgen, ← hgen']
    exact ha.generation_lt t₀ ht₀ t₁ ht₁ (hslot.trans (hs.trans hslot'.symm)) (by omega)

/-! ### Triggers -/

/-- The slot that a trigger gets belongs to no other document. -/
theorem Assigned.slotFor_ne (ha : h.Assigned) (ht : t ∈ h.tasks) (hne : t.uri ≠ uri) :
    t.slot ≠ h.slotFor uri := by
  intro hs
  cases hl : h.registry.lookup uri with
  | none =>
    have hlt := ha.slot_lt ht
    rw [hs, slotFor, hl, Option.getD_none] at hlt
    exact Nat.lt_irrefl _ hlt
  | some i =>
    rw [slotFor, hl, Option.getD_some] at hs
    exact hne (ha.owner t ht uri (hs ▸ hl)).symm

theorem Assigned.lt_nextGeneration (ha : h.Assigned) (ht : t ∈ h.tasks)
    (hs : t.slot = h.slotFor uri) : t.generation < h.nextGeneration uri := by
  obtain ⟨g, hg, hle⟩ := ha.generation_le t ht
  rw [nextGeneration, ← hs, hg, Option.getD_some]
  exact Nat.lt_succ_of_le hle

private theorem mem_begin (hk : h.WellKept) :
    t ∈ (h.begin uri work).tasks ↔ t ∈ h.tasks ∨ t = h.newTask uri work := by
  rw [tasks_begin hk, List.mem_append, List.mem_singleton]

private theorem lookup_begin_eq {u : Uri} {i : Nat}
    (hu : (h.begin uri work).registry.lookup u = some i) :
    u = uri ∧ i = h.slotFor uri ∨ u ≠ uri ∧ h.registry.lookup u = some i := by
  rw [lookup_begin] at hu
  split at hu
  · next hu' => exact .inl ⟨hu', (Option.some.inj hu).symm⟩
  · next hu' => exact .inr ⟨hu', hu⟩

private theorem Assigned.lookup_ne_slotFor (ha : h.Assigned) {u : Uri} (hu : u ≠ uri) :
    h.registry.lookup u ≠ some (h.slotFor uri) := by
  intro hl
  cases hl' : h.registry.lookup uri with
  | none =>
    have hlt := ha.lt_length (ha.registered u _ hl)
    rw [slotFor, hl', Option.getD_none] at hlt
    exact Nat.lt_irrefl _ hlt
  | some i =>
    rw [slotFor, hl', Option.getD_some] at hl
    exact hu (ha.registry_inj u uri i hl hl')

theorem Assigned.begin (ha : h.Assigned) : (h.begin uri work).Assigned where
  toWellKept := ha.toWellKept.begin
  task_lt t ht := by
    rw [nextTask_begin]
    rcases (mem_begin ha.toWellKept).mp ht with ht | rfl
    · exact Nat.lt_succ_of_lt (ha.task_lt t ht)
    · exact Nat.lt_succ_self _
  tasks_sorted := by
    rw [tasks_begin ha.toWellKept, List.map_append, List.pairwise_append]
    refine ⟨ha.tasks_sorted, List.pairwise_singleton _ _, ?_⟩
    intro k hk k' hk'
    obtain ⟨t, ht, rfl⟩ := List.mem_map.mp hk
    obtain rfl := List.mem_singleton.mp hk'
    exact ha.task_lt t ht
  generation_le t ht := by
    rw [generation?_begin ha.toWellKept]
    rcases (mem_begin ha.toWellKept).mp ht with ht | rfl
    · split
      · next hs => exact ⟨_, rfl, Nat.le_of_lt (ha.lt_nextGeneration ht hs)⟩
      · exact ha.generation_le t ht
    · exact ⟨_, if_pos rfl, Nat.le_refl _⟩
  registry_inj u v i hu hv := by
    rcases lookup_begin_eq hu with ⟨hu', hi⟩ | ⟨hu', hu⟩ <;>
      rcases lookup_begin_eq hv with ⟨hv', hj⟩ | ⟨hv', hv⟩
    · exact hu'.trans hv'.symm
    · exact absurd (hi ▸ hv) (ha.lookup_ne_slotFor hv')
    · exact absurd (hj ▸ hu) (ha.lookup_ne_slotFor hu')
    · exact ha.registry_inj u v i hu hv
  owner t ht u hu := by
    rcases (mem_begin ha.toWellKept).mp ht with ht | rfl
    · rcases lookup_begin_eq hu with ⟨heq, hs⟩ | ⟨-, hu⟩
      · by_contra hne
        exact ha.slotFor_ne ht (fun h => hne (heq.trans h.symm)) hs
      · exact ha.owner t ht u hu
    · rcases lookup_begin_eq hu with ⟨heq, -⟩ | ⟨hne, hu⟩
      · exact heq
      · exact absurd hu (ha.lookup_ne_slotFor hne)
  sameOwner t ht t' ht' hs := by
    rcases (mem_begin ha.toWellKept).mp ht with ht | rfl <;>
      rcases (mem_begin ha.toWellKept).mp ht' with ht' | rfl
    · exact ha.sameOwner t ht t' ht' hs
    · by_contra hne
      exact ha.slotFor_ne ht hne hs
    · by_contra hne
      exact ha.slotFor_ne ht' (Ne.symm hne) hs.symm
    · rfl
  generation_lt t ht t' ht' hs hlt := by
    rcases (mem_begin ha.toWellKept).mp ht with ht | rfl <;>
      rcases (mem_begin ha.toWellKept).mp ht' with ht' | rfl
    · exact ha.generation_lt t ht t' ht' hs hlt
    · exact ha.lt_nextGeneration ht hs
    · exact absurd (ha.task_lt t' ht') (Nat.not_lt_of_lt hlt)
    · exact absurd hlt (Nat.lt_irrefl _)

/-- A task that was there before a trigger is beaten if it was beaten, or if the trigger is for its
document. -/
theorem Assigned.isBeaten_begin (ha : h.Assigned) (ht : t ∈ h.tasks) (hb : h.IsBeaten t) :
    (h.begin uri work).IsBeaten t := by
  unfold IsBeaten
  rw [generation?_begin ha.toWellKept]
  split
  · next hs => exact ⟨_, rfl, ha.lt_nextGeneration ht hs⟩
  · exact hb

/-! ### Orderly hubs -/

/-- A task past its entry holds the turn of its slot, and a task whose slot is no longer in use for
its document is early and beaten. -/
structure Orderly (h : Hub) : Prop extends Assigned h where
  turn : ∀ t ∈ h.tasks, t.stage ≠ .queued → h.holder? t.slot = some t.id
  held : ∀ i k, h.holder? i = some k → ∃ t ∈ h.tasks, t.id = k ∧ t.slot = i ∧ t.stage ≠ .queued
  abandoned : ∀ t ∈ h.tasks, h.registry.lookup t.uri ≠ some t.slot →
    t.stage.IsEarly ∧ h.IsBeaten t

/-- A task past its first comparison has a slot in use. -/
theorem Orderly.lookup_of_late (ho : h.Orderly) (ht : t ∈ h.tasks) (hl : ¬ t.stage.IsEarly) :
    h.registry.lookup t.uri = some t.slot := by
  by_contra hne
  exact hl (ho.abandoned t ht hne).1

theorem not_queued_of_late {s : Stage} (hl : ¬ s.IsEarly) : s ≠ .queued := by
  rintro rfl
  exact hl trivial

/-- **One task at a time.** Two tasks for one document that are both past their first comparison are
the same task. -/
theorem Orderly.eq_of_late (ho : h.Orderly) (ht : t ∈ h.tasks) (ht' : t' ∈ h.tasks)
    (hu : t.uri = t'.uri) (hl : ¬ t.stage.IsEarly) (hl' : ¬ t'.stage.IsEarly) : t = t' := by
  have hslot : t.slot = t'.slot := by
    have hlook := ho.lookup_of_late ht hl
    rw [hu, ho.lookup_of_late ht' hl'] at hlook
    exact (Option.some.inj hlook).symm
  have hturn := ho.turn t ht (not_queued_of_late hl)
  rw [hslot, ho.turn t' ht' (not_queued_of_late hl')] at hturn
  exact ho.eq_of_id ht ht' (Option.some.inj hturn).symm

theorem Orderly.sameTurns (ho : h.Orderly) (same : SameTurns h h') : h'.Orderly where
  toAssigned := ho.toAssigned.shrinks same.shrinks
  turn t ht hq := by
    rw [holder?_congr same.slots]
    exact ho.turn t (same.tasks ▸ ht) hq
  held i k hi := by
    rw [same.tasks]
    exact ho.held i k (holder?_congr same.slots ▸ hi)
  abandoned t ht hne := by
    rw [same.shrinks.isBeaten_iff]
    exact ho.abandoned t (same.tasks ▸ ht) (same.registry ▸ hne)

theorem Orderly.begin (ho : h.Orderly) : (h.begin uri work).Orderly where
  toAssigned := ho.toAssigned.begin
  turn t ht hq := by
    rw [holder?_begin ho.toWellKept]
    rcases (mem_begin ho.toWellKept).mp ht with ht | rfl
    · exact ho.turn t ht hq
    · exact absurd rfl hq
  held i k hi := by
    rw [holder?_begin ho.toWellKept] at hi
    obtain ⟨t, ht, hid, hslot, hq⟩ := ho.held i k hi
    exact ⟨t, (mem_begin ho.toWellKept).mpr (.inl ht), hid, hslot, hq⟩
  abandoned t ht hne := by
    rw [lookup_begin] at hne
    rcases (mem_begin ho.toWellKept).mp ht with ht | rfl
    · have hold : h.registry.lookup t.uri ≠ some t.slot := by
        intro hl
        split at hne
        · next hu => exact hne (by rw [slotFor, ← hu, hl, Option.getD_some])
        · exact hne hl
      obtain ⟨hearly, hb⟩ := ho.abandoned t ht hold
      exact ⟨hearly, ho.isBeaten_begin ht hb⟩
    · exact absurd (if_pos rfl) hne

theorem Orderly.beginAll (ho : h.Orderly) (calls : List (Uri × Work)) :
    (h.beginAll calls).Orderly := by
  induction calls generalizing h with
  | nil => exact ho
  | cons c calls ih => exact ih ho.begin

/-! ### Steps of tasks keep a hub orderly -/

private theorem Orderly.enters (ho : h.Orderly) (ht : t ∈ h.tasks) (free : h.isFree t.slot) :
    ((h.giveTurn t.slot t.id).moveTo t.id .admitted).Orderly := by
  have shrinks := (shrinks_giveTurn (h := h) t.slot t.id).trans (shrinks_moveTo t.id .admitted)
  obtain ⟨hexists, hfree⟩ := isFree_iff.mp free
  refine ⟨ho.toAssigned.shrinks shrinks, ?_, ?_, ?_⟩
  · intro t' ht' hq
    rw [holder?_moveTo]
    rcases mem_tasks_moveTo.mp ht' with ⟨t₀, ht₀, hid, rfl⟩ | ⟨ht', hid⟩
    · obtain rfl := ho.eq_of_id ht₀ ht hid
      exact holder?_giveTurn_self hexists
    · -- Nobody else can have had the turn, because it was free.
      have hturn := ho.turn t' ht' hq
      have hslot : t'.slot ≠ t.slot := by
        intro hs
        rw [hs, hfree] at hturn
        cases hturn
      rw [holder?_giveTurn_of_ne hslot]
      exact hturn
  · intro i k hi
    rw [holder?_moveTo] at hi
    by_cases his : i = t.slot
    · rw [his, holder?_giveTurn_self hexists] at hi
      refine ⟨{ t with stage := .admitted }, mem_tasks_moveTo.mpr (.inl ⟨t, ht, rfl, rfl⟩),
        Option.some.inj hi, his.symm, nofun⟩
    · rw [holder?_giveTurn_of_ne his] at hi
      obtain ⟨t', ht', hid, hslot, hq⟩ := ho.held i k hi
      refine ⟨t', mem_tasks_moveTo.mpr (.inr ⟨ht', ?_⟩), hid, hslot, hq⟩
      intro heq
      exact his (by rw [← hslot, ho.eq_of_id ht' ht heq])
  · intro t' ht' hne
    rw [shrinks.isBeaten_iff]
    rcases mem_tasks_moveTo.mp ht' with ⟨t₀, ht₀, -, rfl⟩ | ⟨ht', -⟩
    · exact ⟨trivial, (ho.abandoned t₀ ht₀ hne).2⟩
    · exact ho.abandoned t' ht' hne

private theorem Orderly.goesOn (ho : h.Orderly) (ht : t ∈ h.tasks) {s : Stage}
    (hq : t.stage ≠ .queued) (late : ¬ s.IsEarly)
    (current : t.stage.IsEarly → h.isCurrent t.slot t.generation) : (h.moveTo t.id s).Orderly := by
  have shrinks := shrinks_moveTo (h := h) t.id s
  refine ⟨ho.toAssigned.shrinks shrinks, ?_, ?_, ?_⟩
  · intro t' ht' hq'
    rw [holder?_moveTo]
    rcases mem_tasks_moveTo.mp ht' with ⟨t₀, ht₀, hid, rfl⟩ | ⟨ht', -⟩
    · obtain rfl := ho.eq_of_id ht₀ ht hid
      exact ho.turn t₀ ht₀ hq
    · exact ho.turn t' ht' hq'
  · intro i k hi
    rw [holder?_moveTo] at hi
    obtain ⟨t', ht', hid, hslot, hq'⟩ := ho.held i k hi
    by_cases heq : t'.id = t.id
    · exact ⟨{ t' with stage := s }, mem_tasks_moveTo.mpr (.inl ⟨t', ht', heq, rfl⟩), hid, hslot,
        not_queued_of_late late⟩
    · exact ⟨t', mem_tasks_moveTo.mpr (.inr ⟨ht', heq⟩), hid, hslot, hq'⟩
  · intro t' ht' hne
    rw [shrinks.isBeaten_iff]
    rcases mem_tasks_moveTo.mp ht' with ⟨t₀, ht₀, hid, rfl⟩ | ⟨ht', -⟩
    · -- An abandoned task is beaten, so it would not have been found to be the latest.
      obtain rfl := ho.eq_of_id ht₀ ht hid
      obtain ⟨hearly, hb⟩ := ho.abandoned t₀ ht₀ hne
      exact absurd (current hearly) hb.not_current
    · exact ho.abandoned t' ht' hne

private theorem Orderly.turn_finish (ho : h.Orderly) (ht : t ∈ h.tasks) (hq : t.stage ≠ .queued)
    (ht' : t' ∈ h.tasks) (hne : t'.id ≠ t.id) (hq' : t'.stage ≠ .queued) : t'.slot ≠ t.slot := by
  intro hs
  have hturn := ho.turn t' ht' hq'
  rw [hs, ho.turn t ht hq] at hturn
  exact hne (Option.some.inj hturn).symm

private theorem Orderly.held_finish (ho : h.Orderly) (ht : t ∈ h.tasks) {i k : Nat}
    (hi : (h.finish t).holder? i = some k) :
    ∃ t' ∈ (h.finish t).tasks, t'.id = k ∧ t'.slot = i ∧ t'.stage ≠ .queued := by
  by_cases his : i = t.slot
  · rw [his, holder?_finish_self] at hi
    cases hi
  · rw [holder?_finish_of_ne t his] at hi
    obtain ⟨t', ht', hid, hslot, hq'⟩ := ho.held i k hi
    refine ⟨t', mem_tasks_finish.mpr ⟨ht', ?_⟩, hid, hslot, hq'⟩
    intro heq
    exact his (by rw [← hslot, ho.eq_of_id ht' ht heq])

private theorem Orderly.ends (ho : h.Orderly) (ht : t ∈ h.tasks) (hq : t.stage ≠ .queued) :
    (h.finish t).Orderly := by
  have shrinks := shrinks_finish (h := h) t
  refine ⟨ho.toAssigned.shrinks shrinks, ?_, fun i k => ho.held_finish ht, ?_⟩
  · intro t' ht' hq'
    obtain ⟨ht', hne⟩ := mem_tasks_finish.mp ht'
    rw [holder?_finish_of_ne t (ho.turn_finish ht hq ht' hne hq')]
    exact ho.turn t' ht' hq'
  · intro t' ht' hne
    rw [shrinks.isBeaten_iff]
    exact ho.abandoned t' (mem_tasks_finish.mp ht').1 hne

/-- The tasks that are left behind on a forgotten slot wait for its turn and are beaten. -/
private theorem Orderly.beaten_of_forgotten (ho : h.Orderly) (ht : t ∈ h.tasks)
    (hq : t.stage ≠ .queued) (current : h.generation? t.slot = some t.generation)
    (ht' : t' ∈ h.tasks) (hne : t'.id ≠ t.id) (hs : t'.slot = t.slot) :
    t'.stage.IsEarly ∧ h.IsBeaten t' := by
  constructor
  · by_cases hq' : t'.stage = .queued
    · rw [hq']
      trivial
    · exact absurd hs (ho.turn_finish ht hq ht' hne hq')
  · obtain ⟨g, hg, hle⟩ := ho.generation_le t' ht'
    rw [hs, current] at hg
    obtain rfl := Option.some.inj hg
    refine ⟨t.generation, hs ▸ current, ?_⟩
    rcases Nat.lt_or_gt_of_ne hne with hlt | hlt
    · exact ho.generation_lt t' ht' t ht hs hlt
    · exact absurd (ho.generation_lt t ht t' ht' hs.symm hlt) (Nat.not_lt_of_le hle)

private theorem Orderly.forgets (ho : h.Orderly) (ht : t ∈ h.tasks)
    (hstage : t.stage = .forgetting) :
    ((h.forget t.uri t.slot t.generation).finish t).Orderly := by
  have hq : t.stage ≠ .queued := hstage ▸ nofun
  have shrinks := (shrinks_forget (h := h) t.uri t.slot t.generation).trans (shrinks_finish t)
  have hholder (i : Nat) : ((h.forget t.uri t.slot t.generation).finish t).holder? i =
      (h.finish t).holder? i := by
    refine holder?_congr ?_
    simp only [finish, changeSlot, slots_forget]
  have htasks : ((h.forget t.uri t.slot t.generation).finish t).tasks = (h.finish t).tasks := by
    simp only [finish, tasks_forget]
  refine ⟨ho.toAssigned.shrinks shrinks, ?_, ?_, ?_⟩
  · intro t' ht' hq'
    rw [hholder]
    exact (ho.ends ht hq).turn t' (htasks ▸ ht') hq'
  · intro i k hi
    rw [htasks]
    exact ho.held_finish ht (hholder i ▸ hi)
  · intro t' ht' hne
    rw [shrinks.isBeaten_iff]
    obtain ⟨ht', hid⟩ := mem_tasks_finish.mp (htasks ▸ ht')
    have hlook : ((h.forget t.uri t.slot t.generation).finish t).registry.lookup t'.uri =
        (h.forget t.uri t.slot t.generation).registry.lookup t'.uri := rfl
    rw [hlook, lookup_forget] at hne
    split at hne
    · next hf =>
      obtain ⟨huri, current, hreg⟩ := hf
      by_cases hs : t'.slot = t.slot
      · exact ho.beaten_of_forgotten ht hq current ht' hid hs
      · refine ho.abandoned t' ht' ?_
        rw [huri, hreg]
        intro heq
        exact hs (Option.some.inj heq).symm
    · exact ho.abandoned t' ht' hne

/-- A step of a task keeps a hub orderly. -/
theorem Orderly.step (ho : h.Orderly) (ht : t ∈ h.tasks) (effect : TaskEffect h t h') :
    h'.Orderly := by
  cases effect with
  | enters _ free eq => exact eq ▸ ho.enters ht free
  | goesOn s h₁ hq late current _ same eq =>
    have hcurrent : t.stage.IsEarly → h₁.isCurrent t.slot t.generation := by
      intro he
      rw [isCurrent_iff, generation?_congr same.slots, ← isCurrent_iff]
      exact current he
    exact eq ▸ (ho.sameTurns same).goesOn (same.tasks ▸ ht) hq late hcurrent
  | ends hq _ eq => exact eq ▸ ho.ends ht hq
  | forgets hstage eq => exact eq ▸ ho.forgets ht hstage

/-! ### Runs -/

theorem orderly_ofSettings (settings : SettingsStore) : (ofSettings settings).Orderly := by
  have hslots : (ofSettings settings).slots = [] := rfl
  have hregistry : (ofSettings settings).registry = [] := rfl
  have htasks : (ofSettings settings).tasks = [] := rfl
  constructor
  · constructor
    · constructor <;> simp [hslots, hregistry]
    all_goals simp [htasks, hregistry]
  all_goals simp [htasks, holder?, slot?, hslots]

theorem Orderly.move (ho : h.Orderly) {move : Move} {outs : List HubOutput}
    (effect : MoveEffect h move h' outs) : h'.Orderly := by
  cases effect with
  | begins h₁ same eq _ => exact eq ▸ (ho.sameTurns same).beginAll _
  | steps t a _ known step => exact ho.step (mem_of_task? known).1 step.effect

/-- **A hub is orderly after any run.** -/
theorem Run.orderly {start : Hub} {ms : List Moment} (run : Run start ms h)
    (hstart : start.Orderly) : h.Orderly := by
  induction run with
  | stay => exact hstart
  | next m _ legal ih => exact ih.move (.of_move? legal)

end Hub

end LintBridge
