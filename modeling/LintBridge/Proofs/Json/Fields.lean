import Mathlib.Data.String.Basic
import LintBridge.Decimal.Whole
import LintBridge.Json.Basic

/-!
# Fields in the order of their keys

The fields of an object are a table: what was inserted last for a key is found, and nothing else
changes. The order of the keys makes the table a normal form. An insertion keeps it
(`Fields.Ascending.insert`), a later insertion for the same key undoes an earlier one
(`Fields.insert_insert`), and inserting the fields of an object one after another into nothing gives
these fields again (`Fields.insertAll_eq`).

## Main definitions

* `Fields.Ascending` — each key is less than those after it.
* `Json.Within` — a value is another one or stands somewhere in it.
* `Json.All` — something holds of a value and of all values within it.
* `Json.IsSorted`, `Json.IsWhole` — what is asked of each object and of each number.

## Main results

* `Fields.get?_insert`, `Fields.get?_erase` — what is found after an insertion or a removal.
* `Json.inductionOn` — induction over a value and the values within it.
* `Json.all_arr`, `Json.all_obj` — what holds of all values within a container.
-/

namespace LintBridge

namespace Fields

variable {fields : Fields} {key k : String} {v w : Json} {p : String × Json}

/-- Each key is less than those after it. -/
def Ascending (fields : Fields) : Prop := fields.Pairwise fun p q => p.1 < q.1

/-! ### Looking up -/

theorem get?_insert :
    (fields.insert key v).get? k = if k = key then some v else fields.get? k := by
  induction fields with
  | nil => simp [insert, get?, eq_comm]
  | cons p rest ih =>
    obtain ⟨j, u⟩ := p
    simp only [insert]
    split
    · simp [get?, eq_comm]
    split
    · next heq =>
      subst heq
      by_cases hk : k = key
      · simp [get?, hk]
      · simp [get?, hk, Ne.symm hk]
    · next hne =>
      simp only [get?, ih]
      by_cases hj : j = k
      · rw [if_pos hj, if_pos hj, if_neg (by rintro rfl; exact hne hj.symm)]
      · rw [if_neg hj, if_neg hj]

theorem get?_eq_none (h : ∀ p ∈ fields, p.1 ≠ k) : fields.get? k = none := by
  induction fields with
  | nil => rfl
  | cons p rest ih =>
    simp only [get?, if_neg (h p List.mem_cons_self)]
    exact ih fun q hq => h q (List.mem_cons_of_mem p hq)

theorem get?_erase (h : fields.Ascending) :
    (fields.erase key).get? k = if k = key then none else fields.get? k := by
  induction fields with
  | nil => simp [erase, get?]
  | cons p rest ih =>
    obtain ⟨j, u⟩ := p
    obtain ⟨hhead, hrest⟩ := List.pairwise_cons.mp h
    simp only [erase]
    split
    · next hj =>
      subst hj
      by_cases hk : k = j
      · rw [if_pos hk, hk]
        exact get?_eq_none fun q hq => (hhead q hq).ne'
      · rw [if_neg hk, get?, if_neg (Ne.symm hk)]
    · next hj =>
      simp only [get?, ih hrest]
      by_cases hk : j = k
      · rw [if_pos hk, if_pos hk, if_neg (by rintro rfl; exact hj hk)]
      · rw [if_neg hk, if_neg hk]

/-! ### Inserting -/

theorem mem_insert (h : p ∈ fields.insert key v) : p = (key, v) ∨ p ∈ fields := by
  induction fields with
  | nil => exact .inl (List.mem_singleton.mp h)
  | cons q rest ih =>
    simp only [insert] at h
    split at h
    · exact List.mem_cons.mp h
    split at h
    · exact (List.mem_cons.mp h).imp_right (List.mem_cons_of_mem q)
    · rcases List.mem_cons.mp h with rfl | h
      · exact .inr List.mem_cons_self
      · exact (ih h).imp_right (List.mem_cons_of_mem q)

theorem Ascending.insert (h : fields.Ascending) : (fields.insert key v).Ascending := by
  induction fields with
  | nil => exact List.pairwise_singleton _ _
  | cons q rest ih =>
    obtain ⟨hhead, hrest⟩ := List.pairwise_cons.mp h
    simp only [Fields.insert]
    split
    · next hlt =>
      refine List.pairwise_cons.mpr ⟨fun p hp => ?_, h⟩
      rcases List.mem_cons.mp hp with rfl | hp
      · exact hlt
      · exact lt_trans hlt (hhead p hp)
    split
    · next heq =>
      subst heq
      exact List.pairwise_cons.mpr ⟨hhead, hrest⟩
    · next hlt hne =>
      refine List.pairwise_cons.mpr ⟨fun p hp => ?_, ih hrest⟩
      rcases mem_insert hp with rfl | hp
      · exact lt_of_le_of_ne (not_lt.mp hlt) (Ne.symm hne)
      · exact hhead p hp

theorem erase_sublist (key : String) (fields : Fields) : (fields.erase key).Sublist fields := by
  induction fields with
  | nil => exact List.Sublist.refl []
  | cons p rest ih =>
    obtain ⟨k, v⟩ := p
    simp only [erase]
    split
    · exact List.sublist_cons_self _ _
    · exact ih.cons_cons _

theorem Ascending.erase (h : fields.Ascending) : (fields.erase key).Ascending :=
  List.Pairwise.sublist (erase_sublist key fields) h

/-- A later insertion for the same key undoes an earlier one. -/
theorem insert_insert : (fields.insert key v).insert key w = fields.insert key w := by
  induction fields with
  | nil => simp [insert]
  | cons q rest ih =>
    simp only [insert]
    split
    · simp [insert]
    split
    · simp [insert]
    · next hlt hne => simp [insert, hlt, hne, ih]

/-- A key that is greater than all others comes last. -/
theorem insert_eq_append (h : ∀ p ∈ fields, p.1 < key) :
    fields.insert key v = fields ++ [(key, v)] := by
  induction fields with
  | nil => rfl
  | cons q rest ih =>
    have hq := h q List.mem_cons_self
    simp only [insert, if_neg (lt_asymm hq), if_neg hq.ne']
    rw [ih fun p hp => h p (List.mem_cons_of_mem q hp), List.cons_append]

/-- The fields `more`, inserted one after another. -/
def insertAll (fields more : Fields) : Fields :=
  more.foldl (fun acc p => acc.insert p.1 p.2) fields

/-- Fields that are inserted in the order of their keys stand in that order. -/
theorem insertAll_append {more : Fields} (h : (fields ++ more).Ascending) :
    fields.insertAll more = fields ++ more := by
  induction more generalizing fields with
  | nil => exact (List.append_nil fields).symm
  | cons p more ih =>
    have hp : ∀ q ∈ fields, q.1 < p.1 := fun q hq =>
      (List.pairwise_append.mp h).2.2 q hq p List.mem_cons_self
    rw [insertAll, List.foldl_cons, insert_eq_append hp, ← insertAll, ih, List.append_assoc]
    · rfl
    · rw [List.append_assoc]
      exact h

theorem mem_insertAll {more : Fields} (h : p ∈ fields.insertAll more) : p ∈ fields ∨ p ∈ more := by
  induction more generalizing fields with
  | nil => exact .inl h
  | cons q more ih =>
    rcases ih h with hp | hp
    · rcases mem_insert hp with rfl | hp
      · exact .inr List.mem_cons_self
      · exact .inl hp
    · exact .inr (List.mem_cons_of_mem q hp)

theorem Ascending.insertAll (h : fields.Ascending) (more : Fields) :
    (fields.insertAll more).Ascending := by
  induction more generalizing fields with
  | nil => exact h
  | cons q more ih => exact ih h.insert

/-- **The fields of an object are found again** when they are inserted one after another. -/
theorem insertAll_eq (h : fields.Ascending) : insertAll [] fields = fields :=
  insertAll_append h

end Fields

namespace Json

/-- An induction over a value and the values within it. -/
@[elab_as_elim]
theorem inductionOn {motive : Json → Prop} (null : motive .null) (bool : ∀ b, motive (.bool b))
    (int : ∀ n, motive (.int n)) (float : ∀ d, motive (.float d)) (str : ∀ s, motive (.str s))
    (arr : ∀ items, (∀ j ∈ items, motive j) → motive (.arr items))
    (obj : ∀ fields : Fields, (∀ p ∈ fields, motive p.2) → motive (.obj fields)) (j : Json) :
    motive j :=
  @Json.rec motive (fun items => ∀ j ∈ items, motive j) (fun fields => ∀ p ∈ fields, motive p.2)
    (fun p => motive p.2)
    null bool int float str arr obj (fun _ h => absurd h List.not_mem_nil)
    (fun _ _ head tail => List.forall_mem_cons.mpr ⟨head, tail⟩)
    (fun _ h => absurd h List.not_mem_nil)
    (fun _ _ head tail => List.forall_mem_cons.mpr ⟨head, tail⟩) (fun _ _ h => h) j

/-- The value `v` is `j`, or an item or a field of it, or within one of these. -/
inductive Within (v : Json) : Json → Prop where
  | self : Within v v
  | item {items : List Json} {j : Json} (h : j ∈ items) (within : Within v j) :
    Within v (.arr items)
  | field {fields : Fields} {p : String × Json} (h : p ∈ fields) (within : Within v p.2) :
    Within v (.obj fields)

/-- Something holds of a value and of all values within it. -/
def All (holds : Json → Prop) (j : Json) : Prop := ∀ v : Json, v.Within j → holds v

variable {holds : Json → Prop} {j : Json} {items : List Json} {fields : Fields}

theorem All.self (h : All holds j) : holds j := h j .self

theorem all_arr : All holds (.arr items) ↔ holds (.arr items) ∧ ∀ j ∈ items, All holds j := by
  constructor
  · exact fun h => ⟨h.self, fun j hj v hv => h v (.item hj hv)⟩
  · rintro ⟨harr, hitems⟩ v hv
    cases hv with
    | self => exact harr
    | item hj within => exact hitems _ hj v within

theorem all_obj :
    All holds (.obj fields) ↔ holds (.obj fields) ∧ ∀ p ∈ fields, All holds p.2 := by
  constructor
  · exact fun h => ⟨h.self, fun p hp v hv => h v (.field hp hv)⟩
  · rintro ⟨hobj, hfields⟩ v hv
    cases hv with
    | self => exact hobj
    | field hp within => exact hfields _ hp v within

/-- The fields of an object stand in the order of their keys. -/
def IsSorted : Json → Prop
  | .obj fields => Fields.Ascending fields
  | _ => True

/-- A number is whole and has 64 bits. -/
def IsWhole : Json → Prop
  | .int n => Decimal.minLong ≤ n ∧ n ≤ Decimal.maxLong
  | .float _ => False
  | _ => True

/-- An insertion keeps the order of the fields. -/
theorem All.insert {key : String} {v : Json} (h : All IsSorted (.obj fields))
    (hv : All IsSorted v) : All IsSorted (.obj (fields.insert key v)) := by
  obtain ⟨hascending, hfields⟩ := all_obj.mp h
  refine all_obj.mpr ⟨Fields.Ascending.insert hascending, fun p hp => ?_⟩
  rcases Fields.mem_insert hp with rfl | hp
  · exact hv
  · exact hfields p hp

/-- Neither an array nor an object. -/
def IsSingle : Json → Prop
  | .arr _ => False
  | .obj _ => False
  | _ => True

/-- A value with no others in it is all there is to look at. -/
theorem IsSingle.all (hsingle : IsSingle j) (h : holds j) : All holds j := by
  intro v hv
  cases hv with
  | self => exact h
  | item => exact absurd hsingle id
  | field => exact absurd hsingle id

theorem IsSingle.all_isSorted (h : IsSingle j) : All IsSorted j := by
  cases j with
  | obj fields => exact absurd h id
  | _ => exact h.all trivial

end Json

end LintBridge
