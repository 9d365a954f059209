import Mathlib.Algebra.GroupWithZero.Nat
import LintBridge.Proofs.Report.Pipeline

/-!
# The line table measures the whole text

The line feeds of a text alone tell its line table. There is a line for each of them, and one more
for what follows the last, unless that is nothing. A line is as wide as what stands between its two
line feeds, less a carriage return directly before the second (`Text.EndsWithCrlf`). A carriage
return at the end of the text counts, since no line feed follows.

Nothing of the text is lost or counted twice: the widths of the lines and the lengths of their
endings add up to the length of the text.

## Main definitions

* `Text.EndsWithCrlf` — a line ends with a carriage return and a line feed.
* `Text.endingUnits` — how long the ending of a line is.

## Main results

* `Text.HasLine.getElem?_splitOn` — a line of a text is a part of it between line feeds.
* `Text.flatMap_splitLines` — the lines of a text with their endings are the text.
* `LineTable.ofText_exact` — what the line table of a text is.
-/

namespace LintBridge

namespace Text

variable {text cs ds : List Char} {c : Char} {i : Nat} {l : Line}

/-! ### Lengths -/

theorem units_append : units (cs ++ ds) = units cs + units ds := by
  induction cs with
  | nil => simp [units]
  | cons c cs ih => simp_all [units, Nat.add_assoc]

/-- The lines of a text with their endings are the text. -/
theorem flatMap_splitLines (cs : List Char) :
    (splitLines cs).flatMap (fun l => l.body ++ l.ending.chars) = cs := by
  induction cs with
  | nil => rfl
  | cons c cs ih =>
    rw [splitLines_cons]
    unfold pushFront
    split_ifs with hc
    · rw [List.flatMap_cons, ih, hc]
      rfl
    · split
      · next hnil =>
        rw [splitLines_eq_nil_iff.mp hnil]
        rfl
      · next l ls hcons =>
        rw [hcons, List.flatMap_cons] at ih
        split_ifs with hcrlf
        · obtain ⟨rfl, rfl⟩ := hcrlf
          rw [← ih]
          rfl
        · rw [List.flatMap_cons, ← ih]
          rfl

theorem units_flatMap {lines : List Line} :
    units (lines.flatMap fun l => l.body ++ l.ending.chars) =
      (lines.map fun l => units l.body).sum + (lines.map fun l => units l.ending.chars).sum := by
  induction lines with
  | nil => rfl
  | cons l lines ih =>
    rw [List.flatMap_cons, units_append, units_append, ih, List.map_cons, List.map_cons,
      List.sum_cons, List.sum_cons]
    omega

/-! ### Lines by their line feeds -/

/-- Line `i`, counted from zero, ends with a carriage return and a line feed: a line feed ends it,
and the last character before that is a carriage return. -/
def EndsWithCrlf (text : List Char) (i : Nat) : Prop :=
  i < text.count '\n' ∧ ∃ part, (text.splitOn '\n')[i]? = some part ∧ part.getLast? = some '\r'

instance (text : List Char) (i : Nat) : Decidable (EndsWithCrlf text i) :=
  decidable_of_iff (i < text.count '\n' ∧
      ((text.splitOn '\n')[i]?.bind List.getLast?) = some '\r') <| by
    rw [EndsWithCrlf, Option.bind_eq_some_iff]

/-- How long the ending of line `i` is: nothing ends a line that reaches to the end of the text. -/
def endingUnits (text : List Char) (i : Nat) : Nat :=
  if EndsWithCrlf text i then 2 else if i < text.count '\n' then 1 else 0

/-- **A line of a text is a part of it between line feeds**, with the carriage return of its
ending. -/
theorem HasLine.getElem?_splitOn (h : HasLine text i l) :
    (text.splitOn '\n')[i]? = some l.beforeLf := by
  by_cases hne : text = []
  · subst hne
    obtain ⟨rfl, rfl⟩ := hasLine_nil.mp h
    rfl
  · obtain ⟨rest, hrest, -⟩ := splitAll_lf text
    have hline := (getElem?_splitLines hne).mpr h
    have hlt : i < ((splitLines text).map Line.beforeLf).length := by
      rw [List.length_map]
      exact (List.getElem?_eq_some_iff.mp hline).1
    rw [← splitAll_eq_splitOn, hrest, List.getElem?_append_left hlt, List.getElem?_map, hline,
      Option.map_some]

/-- A line feed ends a line unless it reaches to the end of the text. -/
theorem HasLine.lt_count_iff (h : HasLine text i l) :
    i < text.count '\n' ↔ l.ending ≠ .endOfText := by
  obtain ⟨before, after, rfl, hcount, hs⟩ := h
  rw [List.count_append, hcount, ← hs.span.2, ← List.count_pos_iff]
  omega

theorem HasLine.endsWithCrlf_iff (h : HasLine text i l) :
    EndsWithCrlf text i ↔ l.ending = .crlf := by
  have hpart : (∃ part, (text.splitOn '\n')[i]? = some part ∧ part.getLast? = some '\r') ↔
      l.beforeLf.getLast? = some '\r' := by
    simp [h.getElem?_splitOn]
  obtain ⟨before, after, -, -, hs⟩ := id h
  rw [EndsWithCrlf, hpart, h.lt_count_iff, Line.beforeLf]
  cases hend : l.ending with
  | endOfText => simp
  | lf => simpa using hs.no_cr hend
  | crlf => simp

theorem HasLine.endingUnits_eq (h : HasLine text i l) :
    endingUnits text i = units l.ending.chars := by
  rw [endingUnits, if_congr h.endsWithCrlf_iff rfl (if_congr h.lt_count_iff rfl rfl)]
  cases l.ending <;> decide

/-- What stands between two line feeds is as long as the line and the carriage return of its
ending. -/
theorem HasLine.units_beforeLf (h : HasLine text i l) :
    units l.body + (if EndsWithCrlf text i then 1 else 0) = units l.beforeLf := by
  rw [if_congr h.endsWithCrlf_iff rfl rfl, Line.beforeLf, units_append]
  split_ifs <;> rfl

end Text

namespace LineTable

open Text

variable {text : List Char}

theorem lineCount_ofText (text : List Char) : (ofText text).lineCount = Text.lineCount text := by
  rw [lineCount, widths_ofText, List.length_map, length_shownLines]

/-- **The widths and the endings add up** to the length of the text. -/
theorem sum_widths (text : List Char) :
    (ofText text).widths.sum + ((List.range (ofText text).lineCount).map (endingUnits text)).sum =
      units text := by
  by_cases hne : text = []
  · subst hne
    decide
  · have hlines : (List.range (ofText text).lineCount).map (endingUnits text) =
        (splitLines text).map fun l => units l.ending.chars := by
      refine List.ext_getElem (by simp [lineCount_ofText, length_splitLines hne]) fun i hi hi' => ?_
      rw [List.length_map] at hi'
      have hline := (getElem?_splitLines hne).mp (List.getElem?_eq_getElem hi')
      simp [hline.endingUnits_eq]
    have hwidths : (ofText text).widths = (splitLines text).map fun l => units l.body := by
      have hlines : Text.lines text ≠ [] := fun h =>
        hne (splitLines_eq_nil_iff.mp (List.map_eq_nil_iff.mp h))
      rw [widths_ofText, shownLines, if_neg hlines, Text.lines, List.map_map]
      rfl
    rw [hlines, hwidths, ← units_flatMap, flatMap_splitLines]

/-- **The line table of a text.**

1. There are as many lines as line feeds, and one more if the text is empty or does not end with a
   line feed.
2. A line has a span if and only if its number lies between one and the number of lines.
3. The span is that of the line with this number. It is as wide as what stands between the line feed
   before it and the next one, less a carriage return directly before the next one.
4. The widths of all lines together with their endings add up to the length of the text. -/
theorem ofText_exact (text : List Char) :
    (ofText text).lineCount =
      text.count '\n' + (if text = [] ∨ text.getLast? ≠ some '\n' then 1 else 0) ∧
    (∀ n, ((ofText text).span? n).isSome ↔ 1 ≤ n ∧ n ≤ (ofText text).lineCount) ∧
    (∀ n s, (ofText text).span? n = some s → n = s.line + 1 ∧
      ∃ part, (text.splitOn '\n')[s.line]? = some part ∧
        s.endCharacter + (if EndsWithCrlf text s.line then 1 else 0) = units part) ∧
    (ofText text).widths.sum + ((List.range (ofText text).lineCount).map (endingUnits text)).sum =
      units text := by
  refine ⟨?_, fun n => ?_, fun n s hs => ?_, sum_widths text⟩
  · have hlast : text.getLast? = some '\n' ↔ ¬ (text = [] ∨ text.getLast? ≠ some '\n') := by
      cases text <;> simp
    rw [lineCount_ofText, Text.lineCount, if_congr hlast rfl rfl, ite_not]
  · rw [lineCount_ofText, isSome_span?_ofText]
  · obtain ⟨hn, l, hl, hend⟩ := span?_ofText.mp hs
    exact ⟨hn, l.beforeLf, hl.getElem?_splitOn, hend ▸ hl.units_beforeLf⟩

/-- Three lines with carriage returns: two before a line feed, of which one belongs to the ending,
one at the beginning of a line, and one at the end of the text. -/
def returns : List Char := ['a', '\r', '\r', '\n', '🎉', '\n', '\r', '\r']

/-- The first line is two units wide, and so are the other two. -/
theorem returns_exact :
    (ofText returns).span? 1 = some ⟨0, 2⟩ ∧
    (∃ part, (returns.splitOn '\n')[0]? = some part ∧
      2 + (if EndsWithCrlf returns 0 then 1 else 0) = units part) ∧
    (ofText returns).widths = [2, 2, 2] ∧
    [2, 2, 2].sum + ((List.range 3).map (endingUnits returns)).sum = units returns := by
  obtain ⟨-, -, hspan, hsum⟩ := ofText_exact returns
  have hfirst : (ofText returns).span? 1 = some ⟨0, 2⟩ := by decide
  have hwidths : (ofText returns).widths = [2, 2, 2] := by decide
  rw [lineCount, hwidths] at hsum
  exact ⟨hfirst, (hspan 1 _ hfirst).2, hwidths, hsum⟩

end LineTable

end LintBridge
