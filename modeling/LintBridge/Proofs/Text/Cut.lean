import Mathlib.Data.List.DropRight
import LintBridge.Text.Blank
import LintBridge.Text.Cut

/-!
# Where a text is cut

A text is cut at the first occurrence of a separator if what stands before it, together with the
separator, holds the separator nowhere but at its end; and it is cut at the last occurrence of an
item if the item does not occur behind it. What is dropped from the end of a text, or trimmed from
both of its ends, is told by what may stand there and by what is left.

## Main results

* `Text.cutFirst_eq_some_iff`, `Text.cutLast_eq_some_iff` — where a text is cut.
* `Text.splitAll_append` — a text is split at every occurrence of an item.
* `Text.dropEndWhile_eq_iff`, `Text.trimChars_eq_iff` — what is left of a text.
-/

namespace LintBridge

namespace Text

/-! ### Cutting -/

section Cutting

variable {α : Type} {sep xs before after : List α} {x : α}

/-- The separator occurs in a text at its end and nowhere else. -/
def OnlyEndsWith (sep text : List α) : Prop :=
  sep <:+ text ∧ ∀ before after, text = before ++ sep ++ after → after = []

theorem onlyEndsWith_append :
    OnlyEndsWith sep (before ++ sep) ↔ ∀ b a, before ++ sep = b ++ sep ++ a → a = [] :=
  and_iff_right (List.suffix_append before sep)

/-- Nothing but the separator itself begins with it and has it nowhere but at its end. -/
theorem OnlyEndsWith.eq_nil (only : OnlyEndsWith sep (before ++ sep))
    (begins : sep <+: before ++ sep) : before = [] := by
  obtain ⟨rest, hrest⟩ := begins
  have hnil : rest = [] := only.2 [] rest hrest.symm
  have hlength := congrArg List.length hrest
  rw [hnil, List.append_nil, List.length_append] at hlength
  exact List.length_eq_zero_iff.mp (by omega)

/-- A text that does not begin with the separator can be made longer in front. -/
theorem onlyEndsWith_cons (notFirst : ¬ sep <+: x :: (before ++ sep)) :
    OnlyEndsWith sep (x :: before ++ sep) ↔ OnlyEndsWith sep (before ++ sep) := by
  rw [onlyEndsWith_append, onlyEndsWith_append]
  constructor
  · intro only b a heq
    refine only (x :: b) a ?_
    rw [List.cons_append, heq]
    rfl
  · intro only b a heq
    cases b with
    | nil => exact absurd ⟨a, heq.symm⟩ notFirst
    | cons y b => exact only b a (List.cons.inj heq).2

variable [DecidableEq α]

/-- **A text is cut at the first occurrence of a separator.** -/
theorem cutFirst_eq_some_iff :
    cutFirst sep xs = some (before, after) ↔
      xs = before ++ sep ++ after ∧ OnlyEndsWith sep (before ++ sep) := by
  induction xs generalizing before with
  | nil =>
    rw [cutFirst, List.nil_eq, List.append_eq_nil_iff, List.append_eq_nil_iff]
    split
    · next hsep =>
      subst hsep
      constructor
      · rintro ⟨⟩
        exact ⟨⟨⟨rfl, rfl⟩, rfl⟩, onlyEndsWith_append.mpr fun b a heq => by simp_all⟩
      · rintro ⟨⟨⟨rfl, -⟩, rfl⟩, -⟩
        rfl
    · next hsep => exact iff_of_false nofun fun h => hsep h.1.1.2
  | cons x xs ih =>
    rw [cutFirst]
    by_cases first : sep <+: x :: xs
    · rw [if_pos (List.isPrefixOf_iff_prefix.mpr first)]
      obtain ⟨rest, hrest⟩ := first
      rw [← hrest, List.drop_left, Option.some_inj, Prod.mk.injEq]
      constructor
      · rintro ⟨rfl, rfl⟩
        refine ⟨rfl, onlyEndsWith_append.mpr fun b a heq => ?_⟩
        have hlength := congrArg List.length heq
        simp only [List.nil_append, List.length_append] at hlength
        exact List.length_eq_zero_iff.mp (by omega)
      · rintro ⟨heq, only⟩
        have begins : sep <+: before ++ sep := by
          refine List.prefix_of_prefix_length_le ⟨rest, heq⟩ (List.prefix_append _ after) ?_
          rw [List.length_append]
          exact Nat.le_add_left _ _
        obtain rfl := only.eq_nil begins
        exact ⟨rfl, List.append_cancel_left heq⟩
    · rw [if_neg (mt List.isPrefixOf_iff_prefix.mp first), Option.map_eq_some_iff]
      constructor
      · rintro ⟨⟨before', after'⟩, hcut, heq⟩
        obtain ⟨rfl, rfl⟩ := Prod.mk.inj heq
        obtain ⟨rfl, only⟩ := ih.mp hcut
        refine ⟨rfl, (onlyEndsWith_cons fun begins => first ?_).mpr only⟩
        exact begins.trans (List.prefix_append (x :: (before' ++ sep)) after')
      · rintro ⟨heq, only⟩
        cases before with
        | nil => exact absurd ⟨after, heq.symm⟩ first
        | cons y before =>
          obtain ⟨rfl, rfl⟩ := List.cons.inj heq
          refine ⟨(before, after), ih.mpr ⟨rfl, (onlyEndsWith_cons fun begins => first ?_).mp only⟩,
            rfl⟩
          exact begins.trans (List.prefix_append (x :: (before ++ sep)) after)

theorem cutLast_eq_none_iff : cutLast x xs = none ↔ x ∉ xs := by
  induction xs with
  | nil => exact iff_of_true rfl List.not_mem_nil
  | cons y ys ih =>
    rw [cutLast, List.mem_cons, not_or]
    split
    · next htail =>
      have hmem : x ∈ ys := by
        by_contra hnot
        rw [ih.mpr hnot] at htail
        cases htail
      exact iff_of_false nofun fun h => h.2 hmem
    · next htail =>
      split
      · next heq => exact iff_of_false nofun fun h => h.1 heq.symm
      · next hne => exact iff_of_true rfl ⟨Ne.symm hne, ih.mp htail⟩

theorem cutLast_append (notAfter : x ∉ after) :
    cutLast x (before ++ x :: after) = some (before, after) := by
  induction before with
  | nil => rw [List.nil_append, cutLast, cutLast_eq_none_iff.mpr notAfter, if_pos rfl]
  | cons y before ih => rw [List.cons_append, cutLast, ih]

/-- **A text is cut at the last occurrence of an item.** -/
theorem cutLast_eq_some_iff :
    cutLast x xs = some (before, after) ↔ xs = before ++ x :: after ∧ x ∉ after := by
  constructor
  · intro hcut
    induction xs generalizing before with
    | nil => cases hcut
    | cons y ys ih =>
      rw [cutLast] at hcut
      split at hcut
      · next before' after' htail =>
        obtain ⟨rfl, rfl⟩ := Prod.mk.inj (Option.some.inj hcut)
        obtain ⟨rfl, notAfter⟩ := ih htail
        exact ⟨rfl, notAfter⟩
      · next htail =>
        split at hcut
        · next heq =>
          obtain ⟨rfl, rfl⟩ := Prod.mk.inj (Option.some.inj hcut)
          exact ⟨by rw [heq]; rfl, cutLast_eq_none_iff.mp htail⟩
        · cases hcut
  · rintro ⟨rfl, notAfter⟩
    exact cutLast_append notAfter

/-- Parts are those of the standard splitting. -/
theorem splitAll_eq_splitOn (xs : List α) : splitAll x xs = xs.splitOn x := by
  induction xs with
  | nil => rfl
  | cons y ys ih =>
    rw [splitAll, List.splitOn_cons_eq_if_modifyHead, ih]
    simp only [beq_iff_eq]
    split
    · rfl
    · cases hparts : ys.splitOn x with
      | nil => exact absurd hparts (List.splitOn_ne_nil x ys)
      | cons part parts => rfl

theorem splitAll_ne_nil (xs : List α) : splitAll x xs ≠ [] := by
  rw [splitAll_eq_splitOn]
  exact List.splitOn_ne_nil x xs

/-- **A text is split at every occurrence of an item.** -/
theorem splitAll_append (before after : List α) :
    splitAll x (before ++ x :: after) = splitAll x before ++ splitAll x after := by
  simp only [splitAll_eq_splitOn]
  exact List.splitOn_append_cons_self before after

theorem splitAll_cons (y : α) (ys : List α) :
    splitAll x (y :: ys) =
      if y = x then [] :: splitAll x ys else (splitAll x ys).modifyHead (y :: ·) := by
  simp only [splitAll_eq_splitOn, List.splitOn_cons_eq_if_modifyHead, beq_iff_eq]

/-- What does not have the item goes to the front of the first part. -/
theorem splitAll_append_of_not_mem (hnot : x ∉ xs) (ys : List α) :
    splitAll x (xs ++ ys) = (splitAll x ys).modifyHead (xs ++ ·) := by
  induction xs with
  | nil => cases h : splitAll x ys <;> simp [h]
  | cons y xs ih =>
    obtain ⟨hne, hnot⟩ : x ≠ y ∧ x ∉ xs := by simpa using hnot
    rw [List.cons_append, splitAll_cons, if_neg hne.symm, ih hnot, List.modifyHead_modifyHead]
    rfl

theorem splitAll_eq_singleton (hnot : x ∉ xs) : splitAll x xs = [xs] := by
  rw [splitAll_eq_splitOn]
  exact List.splitOn_eq_singleton hnot

/-- A text is its parts put together. -/
theorem intercalate_splitAll (xs : List α) : [x].intercalate (splitAll x xs) = xs := by
  rw [splitAll_eq_splitOn]
  exact List.intercalate_splitOn x

theorem not_mem_of_mem_splitAll {part : List α} (h : part ∈ splitAll x xs) : x ∉ part := by
  induction xs generalizing part with
  | nil =>
    obtain rfl := List.mem_singleton.mp h
    exact List.not_mem_nil
  | cons y ys ih =>
    rw [splitAll] at h
    split at h
    · rcases List.mem_cons.mp h with rfl | h
      · exact List.not_mem_nil
      · exact ih h
    · next hne =>
      split at h
      · next hnil => exact absurd hnil (splitAll_ne_nil ys)
      · next first rest hparts =>
        rcases List.mem_cons.mp h with rfl | h
        · rw [List.mem_cons, not_or]
          exact ⟨Ne.symm hne, ih (hparts ▸ List.mem_cons_self)⟩
        · exact ih (hparts ▸ List.mem_cons_of_mem _ h)

end Cutting

/-! ### What is left of a text -/

section Leaving

variable {p : Char → Bool} {cs left : List Char}

/-- What may be dropped at the end of a text does not matter for what is left of it. -/
theorem dropEndWhile_append {dropped : List Char} (hdropped : ∀ c ∈ dropped, p c) :
    dropEndWhile p (cs ++ dropped) = dropEndWhile p cs := by
  have hreverse : ∀ c ∈ dropped.reverse, p c := fun c hc => hdropped c (List.mem_reverse.mp hc)
  rw [dropEndWhile, List.reverse_append, List.dropWhile_append_of_pos hreverse, dropEndWhile]

theorem dropEndWhile_eq_self (hlast : ∀ c ∈ cs.getLast?, p c = false) :
    dropEndWhile p cs = cs := by
  refine List.rdropWhile_eq_self_iff.mpr fun hne => ?_
  rw [hlast _ (List.getLast?_eq_some_getLast hne)]
  exact Bool.false_ne_true

theorem of_mem_head?_dropWhile {c : Char} (hc : c ∈ (cs.dropWhile p).head?) : p c = false := by
  have hhead := List.head?_dropWhile_not p cs
  rwa [Option.mem_def.mp hc] at hhead

/-- **Characters are dropped at the end of a text as far as they may be.** -/
theorem dropEndWhile_eq_iff :
    dropEndWhile p cs = left ↔
      (∃ dropped, cs = left ++ dropped ∧ ∀ c ∈ dropped, p c) ∧
        ∀ c ∈ left.getLast?, p c = false := by
  constructor
  · rintro rfl
    refine ⟨⟨cs.rtakeWhile p, ?_, fun c hc => List.mem_rtakeWhile_imp hc⟩, fun c hc => ?_⟩
    · exact List.rdropWhile_append_rtakeWhile.symm
    · rw [dropEndWhile, List.getLast?_reverse] at hc
      exact of_mem_head?_dropWhile hc
  · rintro ⟨⟨dropped, rfl, hdropped⟩, hlast⟩
    rw [dropEndWhile_append hdropped, dropEndWhile_eq_self hlast]

/-- **A text is trimmed at both ends as far as there are blanks.** -/
theorem trimChars_eq_iff :
    trimChars cs = left ↔
      (∃ front back, cs = front ++ left ++ back ∧ (∀ c ∈ front, isBlank c) ∧
        ∀ c ∈ back, isBlank c) ∧
      (∀ c ∈ left.head?, isBlank c = false) ∧ ∀ c ∈ left.getLast?, isBlank c = false := by
  rw [trimChars, dropEndWhile_eq_iff]
  constructor
  · rintro ⟨⟨back, hback, hblank⟩, hlast⟩
    refine ⟨⟨cs.takeWhile isBlank, back, ?_, fun c hc => ?_, hblank⟩, fun c hc => ?_, hlast⟩
    · rw [List.append_assoc, ← hback, List.takeWhile_append_dropWhile]
    · exact List.mem_takeWhile_imp hc
    · have hhead : c ∈ (cs.dropWhile isBlank).head? := by
        rw [hback, List.head?_append, Option.mem_def.mp hc]
        rfl
      exact of_mem_head?_dropWhile hhead
  · rintro ⟨⟨front, back, rfl, hfront, hback⟩, hfirst, hlast⟩
    rw [List.append_assoc, List.dropWhile_append_of_pos hfront]
    cases left with
    | nil => exact ⟨⟨[], by simpa using hback, nofun⟩, hlast⟩
    | cons c left =>
      rw [List.cons_append, List.dropWhile_cons_of_neg (by simp [hfirst c rfl])]
      exact ⟨⟨back, rfl, hback⟩, hlast⟩

end Leaving

end Text

end LintBridge
