import LintBridge.Report.Diagnostic
import LintBridge.Report.Outcome

/-!
# Diagnostics cover whole lines

Every diagnostic of a document is shown over one whole line of its text. An empty text counts as one
empty line.

## Main definitions

* `Text.shownLines` — the lines of a text that an editor can show.
* `Range.IsLineOf` — a range is a whole line of a text.

## Main results

* `LineTable.span?_eq_some_iff` — the spans of a line table are the lines of its text.
* `Outcome.isLineOf_of_mem_findings` — whatever is found is found on a whole line.
-/

namespace LintBridge

/-- The lines of a text that an editor can show. There is always one. -/
def Text.shownLines (text : List Char) : List (List Char) :=
  if Text.lines text = [] then [[]] else Text.lines text

/-- The range is a whole line of a text, from its first character to its last. -/
def Range.IsLineOf (r : Range) (text : String) : Prop :=
  ∃ n line, (Text.shownLines text.toList)[n]? = some line ∧ r = ⟨⟨n, 0⟩, ⟨n, Text.units line⟩⟩

namespace LineTable

theorem widths_ofText (text : List Char) :
    (ofText text).widths = (Text.shownLines text).map Text.units := by
  unfold ofText Text.shownLines
  split
  · next hnil =>
    rw [if_pos (List.map_eq_nil_iff.mp hnil)]
    rfl
  · next hne =>
    rw [if_neg (fun hnil => hne (by rw [hnil, List.map_nil]))]

/-- The spans of a line table are the lines of its text, numbered from one. -/
theorem span?_eq_some_iff {text : List Char} {n : Nat} {s : Span} :
    (ofText text).span? n = some s ↔
      n = s.line + 1 ∧ ∃ line, (Text.shownLines text)[s.line]? = some line ∧
        s.endCharacter = Text.units line := by
  cases n with
  | zero => simp [span?]
  | succ n =>
    obtain ⟨i, e⟩ := s
    simp only [span?, widths_ofText, List.getElem?_map, Option.map_eq_some_iff, Span.mk.injEq,
      Nat.add_right_cancel_iff]
    constructor
    · rintro ⟨_, ⟨line, hline, rfl⟩, rfl, rfl⟩
      exact ⟨rfl, line, hline, rfl⟩
    · rintro ⟨rfl, line, hline, rfl⟩
      exact ⟨_, ⟨line, hline, rfl⟩, rfl, rfl⟩

end LineTable

/-- Whatever is found is found on a whole line of the text. -/
theorem Outcome.isLineOf_of_mem_findings {o : Outcome} {text : String} {f : Finding}
    (hf : f ∈ o.findings text) : f.span.range.IsLineOf text := by
  simp only [findings, LineTable.resolve, List.mem_filterMap, Option.map_eq_some_iff] at hf
  obtain ⟨r, -, s, hs, rfl⟩ := hf
  obtain ⟨-, line, hline, hend⟩ := LineTable.span?_eq_some_iff.mp hs
  exact ⟨s.line, line, hline, by rw [Span.range, hend]⟩

/-- An outcome other than problems finds nothing. -/
theorem Outcome.findings_eq_nil {o : Outcome} (text : String) (h : ∀ rs, o ≠ .problems rs) :
    o.findings text = [] := by
  cases o with
  | problems rs => exact absurd rfl (h rs)
  | _ => rfl

end LintBridge
