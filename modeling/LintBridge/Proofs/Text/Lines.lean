import Mathlib.Data.List.Basic
import LintBridge.Text.Cut
import LintBridge.Text.Lines

/-!
# Where the lines of a text stand

A line can be told by its place in the text alone: so many line feeds stand before it, the last of
them directly before it, and it reaches as far as it can without a line feed of its own. A carriage
return before the line feed belongs to the ending, and only at the end of the text can a line do
without an ending. A line feed at the end of the text opens no further line, so nothing at all is a
line only of the empty text (`Text.HasLine`).

The lines that a text is split into are these lines, and how many there are can be told from the
line feeds alone.

## Main definitions

* `Text.Stands`, `Text.HasLine` — a line stands at its place in a text.
* `Text.lineCount` — the number of lines that an editor shows.
* `Line.beforeLf` — a line with the carriage return of its ending.

## Main results

* `Text.length_splitLines` — there are as many lines as the line feeds say.
* `Text.getElem?_splitLines` — the lines that a text is split into are those that stand at their
  places.
* `Text.splitAll_lf` — the parts of a text between line feeds are its lines with their carriage
  returns.
-/

namespace LintBridge

/-- What stands before the line feed that ends a line, the carriage return included. -/
def Line.beforeLf (l : Line) : List Char := l.body ++ if l.ending = .crlf then ['\r'] else []

namespace Text

variable {c : Char} {cs text before after : List Char} {l : Line} {ls : List Line} {n : Nat}

/-! ### Places -/

/-- A line stands between the characters `before` and `after`. -/
structure Stands (before : List Char) (l : Line) (after : List Char) : Prop where
  /-- The line begins the text or follows a line feed. -/
  begins : before = [] ∨ before.getLast? = some '\n'
  no_lf : '\n' ∉ l.body
  /-- A carriage return before the line feed is part of the ending. -/
  no_cr : l.ending = .lf → l.body.getLast? ≠ some '\r'
  ends : l.ending = .endOfText → after = []
  /-- A line feed at the end of the text opens no further line. -/
  ne_nil : l.ending = .endOfText → l.body ≠ [] ∨ before = []

/-- The line numbered `n`, counted from zero, stands at its place: after `n` line feeds. -/
def HasLine (text : List Char) (n : Nat) (l : Line) : Prop :=
  ∃ before after, text = before ++ (l.body ++ l.ending.chars ++ after) ∧
    before.count '\n' = n ∧ Stands before l after

/-- The number of lines that an editor shows: one more than there are line feeds, unless one of them
ends the text. -/
def lineCount (text : List Char) : Nat :=
  text.count '\n' + if text.getLast? = some '\n' then 0 else 1

/-- Nothing stands before the first line. -/
theorem HasLine.first (h : HasLine text 0 l) :
    ∃ after, text = l.body ++ l.ending.chars ++ after ∧ Stands [] l after := by
  obtain ⟨before, after, htext, hcount, hs⟩ := h
  have hbefore : before = [] := by
    rcases hs.begins with hnil | hlast
    · exact hnil
    · exact absurd (List.mem_of_getLast? hlast) (List.count_eq_zero.mp hcount)
  subst hbefore
  exact ⟨after, htext, hs⟩

/-- A line that does not begin a text keeps its number after one more character in front. -/
theorem HasLine.cons (h : HasLine cs (n + 1) l) (hc : c ≠ '\n') : HasLine (c :: cs) (n + 1) l := by
  obtain ⟨before, after, rfl, hcount, hs⟩ := h
  have hbefore : before ≠ [] := by
    rintro rfl
    cases hcount
  have hlast : before.getLast? = some '\n' := hs.begins.resolve_left hbefore
  refine ⟨c :: before, after, rfl, by rw [List.count_cons_of_ne hc, hcount], ?_⟩
  exact { hs with
    begins := .inr (by rw [List.getLast?_cons, hlast]; rfl)
    ne_nil := fun hend => .inl ((hs.ne_nil hend).resolve_right hbefore) }

/-- A line gets the next number after one more line feed in front, unless it is nothing at all. -/
theorem HasLine.cons_lf (h : HasLine cs n l) (hcs : cs ≠ []) : HasLine ('\n' :: cs) (n + 1) l := by
  obtain ⟨before, after, rfl, hcount, hs⟩ := h
  refine ⟨'\n' :: before, after, rfl, by rw [List.count_cons_self, hcount], ?_⟩
  refine { hs with begins := .inr ?_, ne_nil := fun hend => .inl ?_ }
  · rcases hs.begins with rfl | hlast
    · rfl
    · rw [List.getLast?_cons, hlast]
      rfl
  · rintro hbody
    rcases hs.ne_nil hend with hne | rfl
    · exact hne hbody
    · exact hcs (by rw [hbody, hend, hs.ends hend]; rfl)

/-! ### The lines that a text is split into -/

theorem splitLines_cons : splitLines (c :: cs) = pushFront c (splitLines cs) := rfl

theorem splitLines_eq_nil_iff : splitLines cs = [] ↔ cs = [] := by
  cases cs with
  | nil => exact iff_of_true rfl rfl
  | cons c cs =>
    refine iff_of_false ?_ (List.cons_ne_nil c cs)
    rw [splitLines_cons]
    unfold pushFront
    split
    · exact List.cons_ne_nil _ _
    · split
      · exact List.cons_ne_nil _ _
      · split <;> exact List.cons_ne_nil _ _

/-- **The lines that a text is split into stand at their places.** -/
theorem hasLine_of_splitLines (h : (splitLines text)[n]? = some l) : HasLine text n l := by
  induction text generalizing n l with
  | nil => cases h
  | cons c cs ih =>
    rw [splitLines_cons] at h
    unfold pushFront at h
    split at h
    · next hc =>
      subst hc
      cases n with
      | zero =>
        obtain rfl : ⟨[], .lf⟩ = l := Option.some.inj h
        exact ⟨[], cs, rfl, rfl, .inl rfl, List.not_mem_nil, nofun, nofun, nofun⟩
      | succ n =>
        refine (ih h).cons_lf ?_
        rintro rfl
        cases h
    · next hc =>
      split at h
      · next hnil =>
        obtain rfl := splitLines_eq_nil_iff.mp hnil
        cases n with
        | succ n => cases h
        | zero =>
          obtain rfl : ⟨[c], .endOfText⟩ = l := Option.some.inj h
          refine ⟨[], [], rfl, rfl, .inl rfl, ?_, nofun, fun _ => rfl, fun _ => .inr rfl⟩
          exact fun hmem => hc (List.mem_singleton.mp hmem).symm
      · next l₀ ls hcons =>
        rw [hcons] at ih
        obtain ⟨after, hafter, hs⟩ := (ih (n := 0) rfl).first
        split at h
        · next hcrlf =>
          obtain ⟨rfl, rfl⟩ := hcrlf
          cases n with
          | zero =>
            obtain rfl : ⟨[], .crlf⟩ = l := Option.some.inj h
            exact ⟨[], after, by rw [hafter]; rfl, rfl, .inl rfl, List.not_mem_nil, nofun, nofun,
              nofun⟩
          | succ n => exact HasLine.cons (ih (n := n + 1) h) hc
        · next hplain =>
          cases n with
          | succ n => exact HasLine.cons (ih (n := n + 1) h) hc
          | zero =>
            obtain rfl : ⟨c :: l₀.body, l₀.ending⟩ = l := Option.some.inj h
            refine ⟨[], after, by rw [hafter]; rfl, rfl, .inl rfl, ?_, fun hlf => ?_, hs.ends,
              fun _ => .inr rfl⟩
            · rintro (_ | ⟨_, hmem⟩)
              · exact hc rfl
              · exact hs.no_lf hmem
            · dsimp only
              rw [List.getLast?_cons]
              cases hbody : l₀.body.getLast? with
              | some d => exact hbody ▸ hs.no_cr hlf
              | none =>
                rintro heq
                obtain rfl : c = '\r' := Option.some.inj heq
                refine hplain ⟨rfl, ?_⟩
                rw [← List.getLast?_eq_none_iff.mp hbody, ← hlf]

/-- **There are as many lines as the line feeds say.** -/
theorem length_splitLines (hne : text ≠ []) : (splitLines text).length = lineCount text := by
  induction text with
  | nil => exact absurd rfl hne
  | cons c cs ih =>
    rw [splitLines_cons, lineCount, List.getLast?_cons]
    by_cases hcs : cs = []
    · subst hcs
      by_cases hc : c = '\n'
      · subst hc
        rfl
      · simp [splitLines, pushFront, hc]
    · obtain ⟨d, hd⟩ := Option.ne_none_iff_exists'.mp (mt List.getLast?_eq_none_iff.mp hcs)
      have ih := ih hcs
      rw [lineCount, hd] at ih
      rw [hd, Option.getD_some]
      unfold pushFront
      split
      · next hc =>
        subst hc
        rw [List.length_cons, ih, List.count_cons_self]
        omega
      · next hc =>
        rw [List.count_cons_of_ne hc, ← ih]
        split
        · next hnil => exact absurd (splitLines_eq_nil_iff.mp hnil) hcs
        · next hcons =>
          rw [hcons]
          split <;> rfl

/-! ### Only one line stands at a place -/

/-- What stands before the first line feed, and whether there is one. -/
theorem Stands.span (hs : Stands before l after) :
    (l.body ++ l.ending.chars ++ after).takeWhile (· ≠ '\n') =
        l.body ++ (if l.ending = .crlf then ['\r'] else []) ∧
      ('\n' ∈ l.body ++ l.ending.chars ++ after ↔ l.ending ≠ .endOfText) := by
  have hbody : ∀ c ∈ l.body, decide (c ≠ '\n') = true := by
    intro c hc
    have hne : c ≠ '\n' := fun heq => hs.no_lf (heq ▸ hc)
    simpa using hne
  rw [List.append_assoc, List.takeWhile_append_of_pos hbody, List.mem_append]
  cases hend : l.ending with
  | endOfText => simp [LineEnding.chars, hs.ends hend, hs.no_lf]
  | lf => simp [LineEnding.chars]
  | crlf => simp [LineEnding.chars]

/-- What begins with a line feed before it is told by the number of line feeds before it. -/
theorem eq_of_append_eq_append {b₁ b₂ r₁ r₂ : List Char} (h : b₁ ++ r₁ = b₂ ++ r₂)
    (hcount : b₁.count '\n' = b₂.count '\n') (h₁ : b₁ = [] ∨ b₁.getLast? = some '\n')
    (h₂ : b₂ = [] ∨ b₂.getLast? = some '\n') : b₁ = b₂ := by
  -- The longer one of the two goes on without a line feed, but ends with one.
  have key {b ds : List Char} (hds : ds.count '\n' = 0)
      (hb : b ++ ds = [] ∨ (b ++ ds).getLast? = some '\n') : ds = [] := by
    rcases hb with hnil | hlast
    · exact (List.append_eq_nil_iff.mp hnil).2
    · by_contra hne
      rw [List.getLast?_append_of_ne_nil b hne] at hlast
      exact List.count_eq_zero.mp hds (List.mem_of_getLast? hlast)
  rcases List.append_eq_append_iff.mp h with ⟨ds, rfl, -⟩ | ⟨ds, rfl, -⟩
  · rw [List.count_append] at hcount
    rw [key (by omega) h₂, List.append_nil]
  · rw [List.count_append] at hcount
    rw [key (by omega) h₁, List.append_nil]

theorem HasLine.unique {l' : Line} (h : HasLine text n l) (h' : HasLine text n l') : l = l' := by
  obtain ⟨before, after, htext, hcount, hs⟩ := h
  obtain ⟨before', after', htext', hcount', hs'⟩ := h'
  obtain rfl := eq_of_append_eq_append (htext.symm.trans htext') (hcount.trans hcount'.symm)
    hs.begins hs'.begins
  have hrest := List.append_cancel_left (htext.symm.trans htext')
  obtain ⟨hfront, hlf⟩ := hs.span
  obtain ⟨hfront', hlf'⟩ := hs'.span
  rw [hrest] at hfront hlf
  have hbody := hfront.symm.trans hfront'
  have hend := hlf.symm.trans hlf'
  obtain ⟨body, ending⟩ := l
  obtain ⟨body', ending'⟩ := l'
  -- A carriage return cannot be part of the ending for one of them and of the line for the other.
  have nocr {b b' : List Char} (hcr : b.getLast? ≠ some '\r') : b ≠ b' ++ ['\r'] := by
    rintro rfl
    exact hcr List.getLast?_concat
  cases ending <;> cases ending' <;>
    simp only [reduceCtorEq, ↓reduceIte, List.append_nil, ne_eq, not_true_eq_false,
      not_false_eq_true, iff_true, iff_false] at hbody hend
  case endOfText.endOfText | lf.lf => rw [hbody]
  case crlf.crlf => rw [List.append_cancel_right hbody]
  case lf.crlf => exact absurd hbody (nocr (hs.no_cr rfl))
  case crlf.lf => exact absurd hbody.symm (nocr (hs'.no_cr rfl))

theorem HasLine.lt_lineCount (h : HasLine text n l) : n < lineCount text := by
  obtain ⟨before, after, rfl, hcount, hs⟩ := h
  rw [lineCount, List.count_append, hcount]
  by_cases hend : l.ending = .endOfText
  · -- Without an ending, the text does not end with a line feed.
    rw [if_neg]
    · omega
    · intro hlast
      have hmem : '\n' ∉ l.body ++ l.ending.chars ++ after := fun hmem =>
        hs.span.2.mp hmem hend
      rw [hend, hs.ends hend, LineEnding.chars, List.append_nil, List.append_nil] at hlast hmem
      rcases hs.ne_nil hend with hne | rfl
      · rw [List.getLast?_append_of_ne_nil before hne] at hlast
        exact hmem (List.mem_of_getLast? hlast)
      · exact hmem (List.mem_of_getLast? hlast)
  · have hmem := List.count_pos_iff.mpr (hs.span.2.mpr hend)
    omega

/-- **The lines that a text is split into are those that stand at their places.** -/
theorem getElem?_splitLines (hne : text ≠ []) :
    (splitLines text)[n]? = some l ↔ HasLine text n l := by
  refine ⟨hasLine_of_splitLines, fun h => ?_⟩
  have hlt : n < (splitLines text).length := by
    rw [length_splitLines hne]
    exact h.lt_lineCount
  rw [List.getElem?_eq_getElem hlt]
  exact congrArg some ((hasLine_of_splitLines (List.getElem?_eq_getElem hlt)).unique h)

/-- The empty text has one line, on which nothing stands. -/
theorem hasLine_nil : HasLine [] n l ↔ n = 0 ∧ l = ⟨[], .endOfText⟩ := by
  have first : HasLine [] 0 ⟨[], .endOfText⟩ :=
    ⟨[], [], rfl, rfl, .inl rfl, List.not_mem_nil, nofun, fun _ => rfl, fun _ => .inr rfl⟩
  constructor
  · intro h
    obtain rfl : n = 0 := Nat.lt_one_iff.mp h.lt_lineCount
    exact ⟨rfl, h.unique first⟩
  · rintro ⟨rfl, rfl⟩
    exact first

/-- What stands between two line feeds at the end of a text is its last line. -/
theorem getLast?_lines {body : List Char} (hlf : '\n' ∉ body)
    (hcr : body.getLast? ≠ some '\r') :
    (lines (before ++ '\n' :: (body ++ ['\n']))).getLast? = some body := by
  have hlast : HasLine (before ++ '\n' :: (body ++ ['\n'])) (before.count '\n' + 1)
      ⟨body, .lf⟩ := by
    refine ⟨before ++ ['\n'], [], by simp [LineEnding.chars], by simp, ?_⟩
    exact ⟨.inr (by simp), hlf, fun _ => hcr, nofun, nofun⟩
  have hend : (before ++ '\n' :: (body ++ ['\n'])).getLast? = some '\n' := by
    rw [← List.cons_append, ← List.append_assoc, List.getLast?_concat]
  have hne : before ++ '\n' :: (body ++ ['\n']) ≠ [] := by simp
  have hcount : (splitLines (before ++ '\n' :: (body ++ ['\n']))).length - 1 =
      before.count '\n' + 1 := by
    rw [length_splitLines hne, lineCount, if_pos hend]
    simp [List.count_eq_zero.mpr hlf]
  rw [lines, List.getLast?_map, List.getLast?_eq_getElem?, hcount,
    (getElem?_splitLines hne).mpr hlast]
  rfl

/-! ### Parts between line feeds -/

/-- The parts of a text between its line feeds are what stands before these on its lines, and
perhaps nothing at all at the end. -/
theorem splitAll_lf (cs : List Char) :
    ∃ rest, splitAll '\n' cs = (splitLines cs).map Line.beforeLf ++ rest ∧
      ∀ part ∈ rest, part = [] := by
  induction cs with
  | nil => exact ⟨[[]], rfl, by simp⟩
  | cons c cs ih =>
    obtain ⟨rest, hrest, hempty⟩ := ih
    rw [splitAll, splitLines_cons]
    unfold pushFront
    split
    · exact ⟨rest, by rw [hrest]; rfl, hempty⟩
    · next hc =>
      cases hlines : splitLines cs with
      | nil =>
        obtain rfl := splitLines_eq_nil_iff.mp hlines
        exact ⟨[], rfl, nofun⟩
      | cons l ls =>
        rw [hlines, List.map_cons, List.cons_append] at hrest
        rw [hrest]
        dsimp only
        refine ⟨rest, ?_, hempty⟩
        split
        · next hcrlf =>
          obtain ⟨rfl, rfl⟩ := hcrlf
          rfl
        · rfl

end Text

end LintBridge
