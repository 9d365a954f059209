import LintBridge.Hub.Step

/-!
# What the operations on slots change

A hub keeps the generation and the turn of every document in a slot. This file says, for each
operation of the hub, what it does to the three things that the order of tasks depends on: the
latest generation of a slot, the task that holds the turn of a slot, and the slot in use for a
document. Later files never open these operations.

A hub is *well kept* (`Hub.WellKept`) when its slots are numbered from zero in the order in which
they were made and every slot in use exists. Only then does a new slot differ from all others.

## Main definitions

* `Hub.generation?`, `Hub.holder?` — the generation and the holder of a slot.
* `Hub.slotFor`, `Hub.nextGeneration`, `Hub.newTask` — the slot, the generation and the task that
  the next trigger of a document gets.
* `Hub.WellKept` — the slots are numbered in order, and those in use exist.
* `Hub.SameTurns` — two hubs with the same slots and the same tasks.

## Main results

* `Hub.tasks_begin`, `Hub.generation?_begin`, `Hub.holder?_begin`, `Hub.lookup_begin` — what a
  trigger changes.
* `Hub.WellKept.begin` — a trigger keeps a hub well kept.
-/

namespace LintBridge

namespace Hub

variable {h h' : Hub} {uri v : Uri} {work : Work} {i j k g : Nat}

/-! ### Looking at a slot -/

/-- The latest generation of a slot. -/
def generation? (h : Hub) (slot : Nat) : Option Nat := (h.slot? slot).map Slot.generation

/-- The task that holds the turn of a slot. -/
def holder? (h : Hub) (slot : Nat) : Option Nat := (h.slot? slot).bind Slot.holder

theorem isCurrent_iff : h.isCurrent i g = true ↔ h.generation? i = some g := by
  simp only [isCurrent, generation?, decide_eq_true_eq]

theorem isFree_iff : h.isFree i = true ↔ (h.generation? i).isSome ∧ h.holder? i = none := by
  unfold isFree generation? holder?
  cases h.slot? i with
  | none => simp
  | some s => simp

theorem generation?_congr (hs : h'.slots = h.slots) : h'.generation? i = h.generation? i := by
  simp only [generation?, slot?, hs]

theorem holder?_congr (hs : h'.slots = h.slots) : h'.holder? i = h.holder? i := by
  simp only [holder?, slot?, hs]

/-! ### Changing a slot -/

/-- A change that keeps the identity of slots is seen at the changed slot alone. -/
theorem slot?_changeSlot {f : Slot → Slot} (hf : ∀ s, (f s).id = s.id) (i j : Nat) :
    (h.changeSlot i f).slot? j = (h.slot? j).map fun s => if j = i then f s else s := by
  have hcomp : ((fun s : Slot => decide (s.id = j)) ∘ fun s => if s.id = i then f s else s) =
      fun s => decide (s.id = j) := by
    funext s
    simp only [Function.comp_apply]
    split <;> simp only [hf]
  simp only [changeSlot, slot?, List.find?_map, hcomp]
  cases hfind : h.slots.find? fun s => decide (s.id = j) with
  | none => rfl
  | some s =>
    have hid : s.id = j := by simpa using List.find?_some hfind
    simp only [Option.map_some, hid]

theorem generation?_changeSlot {f : Slot → Slot} (hf : ∀ s, (f s).id = s.id)
    (hg : ∀ s, (f s).generation = s.generation) :
    (h.changeSlot i f).generation? j = h.generation? j := by
  simp only [generation?, slot?_changeSlot hf, Option.map_map]
  congr 1
  funext s
  simp only [Function.comp_apply]
  split
  · exact hg s
  · rfl

theorem holder?_changeSlot_of_ne {f : Slot → Slot} (hf : ∀ s, (f s).id = s.id) (hij : j ≠ i) :
    (h.changeSlot i f).holder? j = h.holder? j := by
  simp only [holder?, slot?_changeSlot hf, if_neg hij, Option.map_id']

/-! ### Taking and ending a turn -/

@[simp] theorem generation?_giveTurn : (h.giveTurn i k).generation? j = h.generation? j :=
  generation?_changeSlot (fun _ => rfl) fun _ => rfl

theorem holder?_giveTurn_self (hi : (h.generation? i).isSome) :
    (h.giveTurn i k).holder? i = some k := by
  simp only [generation?, Option.isSome_map] at hi
  obtain ⟨s, hs⟩ := Option.isSome_iff_exists.mp hi
  have hslot := slot?_changeSlot (h := h) (f := fun s => { s with holder := some k })
    (fun _ => rfl) i i
  rw [holder?, giveTurn, hslot, hs]
  simp

theorem holder?_giveTurn_of_ne (hij : j ≠ i) : (h.giveTurn i k).holder? j = h.holder? j :=
  holder?_changeSlot_of_ne (fun _ => rfl) hij

@[simp] theorem generation?_moveTo (s : Stage) : (h.moveTo k s).generation? j = h.generation? j :=
  generation?_congr rfl

@[simp] theorem holder?_moveTo (s : Stage) : (h.moveTo k s).holder? j = h.holder? j :=
  holder?_congr rfl

@[simp] theorem generation?_finish (t : Task) :
    (h.finish t).generation? j = h.generation? j :=
  (generation?_congr rfl).trans (generation?_changeSlot (fun _ => rfl) fun _ => rfl)

theorem holder?_finish_self (t : Task) : (h.finish t).holder? t.slot = none := by
  have hslot := slot?_changeSlot (h := h) (f := fun s => { s with holder := none })
    (fun _ => rfl) t.slot t.slot
  have hsame : (h.finish t).holder? t.slot =
      (h.changeSlot t.slot fun s => { s with holder := none }).holder? t.slot := holder?_congr rfl
  rw [hsame, holder?, hslot]
  cases h.slot? t.slot with
  | none => rfl
  | some s => simp

theorem holder?_finish_of_ne (t : Task) (hij : j ≠ t.slot) :
    (h.finish t).holder? j = h.holder? j :=
  (holder?_congr rfl).trans (holder?_changeSlot_of_ne (fun _ => rfl) hij)

theorem mem_tasks_finish {t t' : Task} :
    t' ∈ (h.finish t).tasks ↔ t' ∈ h.tasks ∧ t'.id ≠ t.id := by
  simp only [finish, List.mem_filter, decide_eq_true_eq]

theorem mem_tasks_moveTo {s : Stage} {t' : Task} :
    t' ∈ (h.moveTo k s).tasks ↔
      (∃ t ∈ h.tasks, t.id = k ∧ t' = { t with stage := s }) ∨ t' ∈ h.tasks ∧ t'.id ≠ k := by
  simp only [moveTo, List.mem_map]
  constructor
  · rintro ⟨t, ht, rfl⟩
    split
    · next hk => exact Or.inl ⟨t, ht, hk, rfl⟩
    · next hk => exact Or.inr ⟨ht, hk⟩
  · rintro (⟨t, ht, hk, rfl⟩ | ⟨ht, hk⟩)
    · exact ⟨t, ht, if_pos hk⟩
    · exact ⟨t', ht, if_neg hk⟩

theorem stage_of_mem_moveTo {s : Stage} {t' : Task} (ht' : t' ∈ (h.moveTo k s).tasks)
    (hid : t'.id = k) : t'.stage = s := by
  rcases mem_tasks_moveTo.mp ht' with ⟨t₀, -, -, rfl⟩ | ⟨-, hne⟩
  · rfl
  · exact absurd hid hne

/-! ### Forgetting a slot -/

theorem tasks_forget : (h.forget uri i g).tasks = h.tasks := by
  unfold forget
  split <;> rfl

theorem slots_forget : (h.forget uri i g).slots = h.slots := by
  unfold forget
  split <;> rfl

theorem nextTask_forget : (h.forget uri i g).nextTask = h.nextTask := by
  unfold forget
  split <;> rfl

private theorem lookup_cons_if (l : List (Uri × Nat)) (u v : Uri) (n : Nat) :
    ((u, n) :: l).lookup v = if v = u then some n else l.lookup v := by
  rw [List.lookup_cons]
  by_cases hv : v = u
  · rw [beq_iff_eq.mpr hv, if_pos hv]
  · rw [beq_eq_false_iff_ne.mpr hv, if_neg hv]

private theorem lookup_filter_ne (l : List (Uri × Nat)) (uri v : Uri) :
    (l.filter fun (u, _) => u ≠ uri).lookup v = if v = uri then none else l.lookup v := by
  induction l with
  | nil => simp
  | cons p l ih =>
    obtain ⟨u, n⟩ := p
    by_cases hu : u = uri
    · rw [List.filter_cons_of_neg (by simp [hu]), ih, lookup_cons_if]
      by_cases hv : v = uri <;> simp [hu, hv]
    · rw [List.filter_cons_of_pos (by simp [hu]), lookup_cons_if, lookup_cons_if, ih]
      by_cases hv : v = uri
      · simp [hv, Ne.symm hu]
      · simp [hv]

/-- A slot is forgotten only if it is the one in use for the document and no newer trigger has used
it; no other document loses its slot. -/
theorem lookup_forget :
    (h.forget uri i g).registry.lookup v =
      if v = uri ∧ h.generation? i = some g ∧ h.registry.lookup uri = some i then none
      else h.registry.lookup v := by
  unfold forget
  simp only [isCurrent_iff]
  split
  · next hf =>
    rw [lookup_filter_ne]
    by_cases hv : v = uri <;> simp [hv, hf]
  · next hf => simp [hf]

/-! ### Well-kept slots -/

/-- The slots are numbered from zero in the order in which they were made, and every slot in use
exists. -/
structure WellKept (h : Hub) : Prop where
  id_lt : ∀ s ∈ h.slots, s.id < h.slots.length
  registered : ∀ u i, h.registry.lookup u = some i → (h.generation? i).isSome

theorem WellKept.lt_length (hk : h.WellKept) (hi : (h.generation? i).isSome) :
    i < h.slots.length := by
  simp only [generation?, Option.isSome_map] at hi
  obtain ⟨s, hs⟩ := Option.isSome_iff_exists.mp hi
  have hid : s.id = i := by simpa using List.find?_some hs
  exact hid ▸ hk.id_lt s (List.mem_of_find?_eq_some hs)

/-! ### Triggers -/

/-- The slot that the next trigger of a document gets. -/
def slotFor (h : Hub) (uri : Uri) : Nat := (h.registry.lookup uri).getD h.slots.length

/-- The generation that the next trigger of a document gets. -/
def nextGeneration (h : Hub) (uri : Uri) : Nat := (h.generation? (h.slotFor uri)).getD 0 + 1

/-- The task that the next trigger of a document starts. -/
def newTask (h : Hub) (uri : Uri) (work : Work) : Task :=
  ⟨h.nextTask, uri, work, h.slotFor uri, h.nextGeneration uri, .queued⟩

theorem withSlot_snd : (h.withSlot uri).2 = h.slotFor uri := by
  unfold withSlot slotFor
  split <;> next hl => simp [hl]

theorem lookup_withSlot : (h.withSlot uri).1.registry.lookup v =
    if v = uri then some (h.slotFor uri) else h.registry.lookup v := by
  unfold withSlot slotFor
  split
  · next id hl => by_cases hv : v = uri <;> simp [hv, hl]
  · next hl => rw [lookup_cons_if, hl, Option.getD_none]

theorem slot?_withSlot (hk : h.WellKept) : (h.withSlot uri).1.slot? i =
    if i = h.slotFor uri then (h.slot? i).or (some ⟨i, 0, none⟩) else h.slot? i := by
  unfold withSlot slotFor
  split
  · next id hl =>
    have hsome := hk.registered uri id hl
    simp only [generation?, Option.isSome_map] at hsome
    simp only [hl, Option.getD_some]
    split
    · next hi =>
      subst hi
      obtain ⟨s, hs⟩ := Option.isSome_iff_exists.mp hsome
      simp [hs]
    · rfl
  · next hl =>
    simp only [hl, Option.getD_none, slot?, List.find?_append]
    split
    · next hi => simp [hi]
    · next hi => simp [Ne.symm hi]

theorem generation?_begin (hk : h.WellKept) : (h.begin uri work).generation? i =
    if i = h.slotFor uri then some (h.nextGeneration uri) else h.generation? i := by
  have hslot := slot?_changeSlot (h := (h.withSlot uri).1)
    (f := fun s => { s with generation := s.generation + 1 }) (fun _ => rfl) (h.slotFor uri) i
  have hsame : (h.begin uri work).generation? i = (((h.withSlot uri).1).changeSlot (h.slotFor uri)
      fun s => { s with generation := s.generation + 1 }).generation? i := by
    rw [← withSlot_snd]
    exact generation?_congr rfl
  rw [hsame, generation?, hslot, slot?_withSlot hk]
  split
  · next hi =>
    subst hi
    simp only [nextGeneration, generation?]
    cases h.slot? (h.slotFor uri) <;> simp
  · simp only [Option.map_id', generation?]

theorem holder?_begin (hk : h.WellKept) : (h.begin uri work).holder? i = h.holder? i := by
  have hslot := slot?_changeSlot (h := (h.withSlot uri).1)
    (f := fun s => { s with generation := s.generation + 1 }) (fun _ => rfl) (h.slotFor uri) i
  have hsame : (h.begin uri work).holder? i = (((h.withSlot uri).1).changeSlot (h.slotFor uri)
      fun s => { s with generation := s.generation + 1 }).holder? i := by
    rw [← withSlot_snd]
    exact holder?_congr rfl
  rw [hsame, holder?, hslot, slot?_withSlot hk, holder?]
  split
  · cases h.slot? i <;> simp
  · simp only [Option.map_id']

theorem lookup_begin : (h.begin uri work).registry.lookup v =
    if v = uri then some (h.slotFor uri) else h.registry.lookup v :=
  lookup_withSlot

theorem nextTask_begin : (h.begin uri work).nextTask = h.nextTask + 1 := by
  have hkeep : (h.withSlot uri).1.nextTask = h.nextTask := by
    unfold withSlot
    split <;> rfl
  exact congrArg (· + 1) hkeep

/-- A trigger starts one task, behind all others. -/
theorem tasks_begin (hk : h.WellKept) :
    (h.begin uri work).tasks = h.tasks ++ [h.newTask uri work] := by
  have htasks : (h.withSlot uri).1.tasks = h.tasks ∧ (h.withSlot uri).1.nextTask = h.nextTask := by
    unfold withSlot
    split <;> exact ⟨rfl, rfl⟩
  have hgen : ((h.begin uri work).generation? (h.slotFor uri)).getD 0 = h.nextGeneration uri := by
    rw [generation?_begin hk, if_pos rfl, Option.getD_some]
  have hshape : (h.begin uri work).tasks = (h.withSlot uri).1.tasks ++
      [⟨(h.withSlot uri).1.nextTask, uri, work, (h.withSlot uri).2,
        ((h.begin uri work).generation? (h.withSlot uri).2).getD 0, .queued⟩] := rfl
  rw [hshape, withSlot_snd, hgen, htasks.1, htasks.2, newTask]

theorem WellKept.begin (hk : h.WellKept) : (h.begin uri work).WellKept where
  id_lt := by
    have hmap : (h.begin uri work).slots = (h.withSlot uri).1.slots.map fun s =>
        if s.id = (h.withSlot uri).2 then { s with generation := s.generation + 1 } else s := rfl
    have hlt : ∀ s ∈ (h.withSlot uri).1.slots, s.id < (h.withSlot uri).1.slots.length := by
      unfold withSlot
      split
      · exact hk.id_lt
      · intro s hs
        simp only [List.mem_append, List.mem_singleton, List.length_append, List.length_singleton]
          at hs ⊢
        rcases hs with hs | rfl
        · exact Nat.lt_succ_of_lt (hk.id_lt s hs)
        · exact Nat.lt_succ_self _
    intro s hs
    rw [hmap] at hs ⊢
    obtain ⟨s', hs', rfl⟩ := List.mem_map.mp hs
    rw [List.length_map]
    split
    · exact hlt s' hs'
    · exact hlt s' hs'
  registered := by
    intro u i hu
    rw [lookup_begin] at hu
    rw [generation?_begin hk]
    split
    · rfl
    · next hne =>
      split at hu
      · exact absurd (Option.some.inj hu).symm hne
      · exact hk.registered u i hu

/-! ### Hubs with the same turns -/

/-- Two hubs with the same slots and the same tasks. What the order of tasks depends on is the same
in both. -/
structure SameTurns (h h' : Hub) : Prop where
  slots : h'.slots = h.slots
  registry : h'.registry = h.registry
  tasks : h'.tasks = h.tasks
  nextTask : h'.nextTask = h.nextTask

theorem SameTurns.refl (h : Hub) : SameTurns h h := ⟨rfl, rfl, rfl, rfl⟩

theorem SameTurns.wellKept (same : SameTurns h h') (hk : h.WellKept) : h'.WellKept where
  id_lt := by
    rw [same.slots]
    exact hk.id_lt
  registered u i hu := by
    rw [generation?_congr same.slots]
    exact hk.registered u i (same.registry ▸ hu)

end Hub

end LintBridge
