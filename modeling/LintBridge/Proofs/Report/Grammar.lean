import LintBridge.Proofs.Json.Numeral
import LintBridge.Proofs.Text.Cut
import LintBridge.Proofs.Text.Lines
import LintBridge.Report.Record

/-!
# The grammar of records

A line of the output is a record if it has the form

    [<path>:<line>:<column>] <reason>

Nothing in this form is escaped, so it has to be said which occurrence of a separator is meant. The
header ends where `] ` occurs first; what is written before it may hold colons, but its last two
parts do not. The line is a number in decimal, between blanks and after at most one plus sign, from
one to the largest number of 32 bits. The path and the column may be anything else, even nothing.
The reason is what is left, without the carriage returns and line feeds at the end of the line, and
it is not empty.

A line is read as a record if and only if it has this form, and it has it in one way only
(`Record.ofLine_accepts`). Line ends do not matter for this, so the records of an output are those
of its parts between line feeds.

## Main definitions

* `Decimal.Denotes` — a field denotes a number.
* `Record.Parts`, `Record.Parts.IsRecord` — the parts of a line, and when they make a record.
* `Record.StripsTo` — a line without the line ends after it.

## Main results

* `Record.read?_eq_some_iff` — a record is read if and only if it is written.
* `Record.Parts.IsRecord.unique` — a line is a record in one way only.
* `Record.readAll_append` — the records of two outputs, one after the other.
-/

namespace LintBridge

/-! ### Numbers -/

namespace Decimal

variable {bound n : Nat} {cs field : List Char}

/-- One or more digits denote a number, after at most one plus sign. -/
def IsWhole (cs : List Char) (n : Nat) : Prop :=
  ∃ sign ds, cs = sign ++ ds ∧ (sign = [] ∨ sign = ['+']) ∧ ds ≠ [] ∧
    (∀ d ∈ ds, isDigit d) ∧ Nat.ofDigitChars 10 ds 0 = n

/-- A field denotes a number, perhaps with blanks around it. -/
def Denotes (field : List Char) (n : Nat) : Prop :=
  ∃ front cs back, field = front ++ cs ++ back ∧ (∀ c ∈ front, isBlank c) ∧
    (∀ c ∈ back, isBlank c) ∧ IsWhole cs n

theorem readWhole?_eq_some_iff :
    readWhole? bound cs = some n ↔ IsWhole cs n ∧ n ≤ bound := by
  have digits (ds : List Char) : (if ds ≠ [] ∧ ds.all isDigit ∧ digitsValue ds ≤ bound then
      some (digitsValue ds) else none) = some n ↔
      (ds ≠ [] ∧ (∀ d ∈ ds, isDigit d) ∧ Nat.ofDigitChars 10 ds 0 = n) ∧ n ≤ bound := by
    rw [digitsValue_eq, Option.ite_none_right_eq_some, List.all_eq_true]
    constructor
    · rintro ⟨⟨hne, hdigits, hle⟩, heq⟩
      obtain rfl := Option.some.inj heq
      exact ⟨⟨hne, hdigits, rfl⟩, hle⟩
    · rintro ⟨⟨hne, hdigits, rfl⟩, hle⟩
      exact ⟨⟨hne, hdigits, hle⟩, rfl⟩
  rw [readWhole?.eq_def]
  dsimp only
  split
  · next rest =>
    rw [digits]
    refine and_congr_left fun _ => ?_
    constructor
    · rintro ⟨hne, hdigits, hn⟩
      exact ⟨['+'], rest, rfl, .inr rfl, hne, hdigits, hn⟩
    · rintro ⟨sign, ds, heq, rfl | rfl, hne, hdigits, hn⟩
      · rw [List.nil_append] at heq
        exact absurd (hdigits '+' (heq ▸ List.mem_cons_self)) (by decide)
      · obtain rfl := (List.cons.inj heq).2
        exact ⟨hne, hdigits, hn⟩
  · next unsigned =>
    rw [digits]
    refine and_congr_left fun _ => ?_
    constructor
    · rintro ⟨hne, hdigits, hn⟩
      exact ⟨[], cs, rfl, .inl rfl, hne, hdigits, hn⟩
    · rintro ⟨sign, ds, rfl, rfl | rfl, hne, hdigits, hn⟩
      · exact ⟨hne, hdigits, hn⟩
      · exact absurd rfl (unsigned ds)

/-- What denotes a number neither begins nor ends with a blank. -/
theorem IsWhole.not_isBlank (h : IsWhole cs n) :
    (∀ c ∈ cs.head?, isBlank c = false) ∧ ∀ c ∈ cs.getLast?, isBlank c = false := by
  obtain ⟨sign, ds, rfl, hsign, hne, hdigits, -⟩ := h
  have hall : ∀ c ∈ sign ++ ds, isBlank c = false := by
    intro c hc
    rcases List.mem_append.mp hc with hc | hc
    · rcases hsign with rfl | rfl
      · cases hc
      · obtain rfl := List.mem_singleton.mp hc
        decide
    · exact isBlank_of_isDigit (hdigits c hc)
  exact ⟨fun c hc => hall c (List.mem_of_mem_head? hc),
    fun c hc => hall c (List.mem_of_getLast? hc)⟩

/-- **A field is read as the number that it denotes**, unless this exceeds the bound. -/
theorem readWhole?_trimChars :
    readWhole? bound (Text.trimChars field) = some n ↔ Denotes field n ∧ n ≤ bound := by
  rw [readWhole?_eq_some_iff]
  refine and_congr_left fun _ => ?_
  constructor
  · intro h
    obtain ⟨⟨front, back, hfield, hfront, hback⟩, -⟩ := Text.trimChars_eq_iff.mp rfl
    exact ⟨front, _, back, hfield, hfront, hback, h⟩
  · rintro ⟨front, cs, back, hfield, hfront, hback, h⟩
    rw [Text.trimChars_eq_iff.mpr ⟨⟨front, back, hfield, hfront, hback⟩, h.not_isBlank⟩]
    exact h

theorem Denotes.unique {m : Nat} (hn : Denotes field n) (hm : Denotes field m) : n = m := by
  have hn' := readWhole?_trimChars.mpr ⟨hn, Nat.le_max_left n m⟩
  have hm' := readWhole?_trimChars.mpr ⟨hm, Nat.le_max_right n m⟩
  exact Option.some.inj (hn'.symm.trans hm')

end Decimal

/-! ### The form of a record -/

namespace Record

/-- The parts of a line that is a record. -/
structure Parts where
  path : List Char
  line : List Char
  column : List Char
  reason : List Char

/-- What stands between the opening bracket and the separator. -/
def Parts.header (p : Parts) : List Char := p.path ++ ':' :: p.line ++ ':' :: p.column

/-- The line that the parts make. -/
def Parts.text (p : Parts) : List Char := '[' :: p.header ++ separator ++ p.reason

/-- The parts are those of a record. -/
structure Parts.IsRecord (p : Parts) (r : Record) : Prop where
  /-- The header ends at the first separator. -/
  separated : Text.OnlyEndsWith separator (p.header ++ separator)
  line_plain : ':' ∉ p.line
  column_plain : ':' ∉ p.column
  number : Decimal.Denotes p.line r.line
  /-- Lines are counted from one. -/
  one_le : 1 ≤ r.line
  le_maxWord : r.line ≤ 4294967295
  reason_eq : p.reason = r.reason.toList
  reason_ne : p.reason ≠ []

/-- All carriage returns and line feeds at the end of a line are taken away. -/
def StripsTo (line left : List Char) : Prop :=
  (∃ ends, line = left ++ ends ∧ ∀ c ∈ ends, c = '\r' ∨ c = '\n') ∧
    ∀ c ∈ left.getLast?, c ≠ '\r' ∧ c ≠ '\n'

variable {line left left' header : List Char} {n : Nat} {r r' : Record} {p p' : Parts}

theorem stripsTo_iff : StripsTo line left ↔ Text.dropEndWhile isLineEnd line = left := by
  have hend (c : Char) : isLineEnd c = true ↔ c = '\r' ∨ c = '\n' := by simp [isLineEnd]
  have hnot (c : Char) : isLineEnd c = false ↔ c ≠ '\r' ∧ c ≠ '\n' := by simp [isLineEnd]
  simp only [Text.dropEndWhile_eq_iff, hend, hnot, StripsTo]

/-- No separator begins at the bracket. -/
theorem onlyEndsWith_bracket : Text.OnlyEndsWith separator ('[' :: header ++ separator) ↔
    Text.OnlyEndsWith separator (header ++ separator) := by
  refine Text.onlyEndsWith_cons ?_
  rintro ⟨rest, hrest⟩
  cases hrest

theorem readHeader?_eq_some_iff :
    readHeader? header = some n ↔
      ∃ path line column, header = '[' :: (path ++ ':' :: line ++ ':' :: column) ∧
        ':' ∉ line ∧ ':' ∉ column ∧ Decimal.Denotes line n ∧ 1 ≤ n ∧ n ≤ 4294967295 := by
  constructor
  · intro h
    unfold readHeader? at h
    split at h
    · next fields =>
      simp only [Option.bind_eq_bind, Option.bind_eq_some_iff, Prod.exists] at h
      obtain ⟨front, column, hcolumn, path, line, hline, number, hnumber, h⟩ := h
      split at h
      · cases h
      · next hzero =>
        obtain rfl := Option.some.inj h
        obtain ⟨rfl, column_plain⟩ := Text.cutLast_eq_some_iff.mp hcolumn
        obtain ⟨rfl, line_plain⟩ := Text.cutLast_eq_some_iff.mp hline
        obtain ⟨denotes, hle⟩ := Decimal.readWhole?_trimChars.mp hnumber
        exact ⟨path, line, column, rfl, line_plain, column_plain, denotes,
          Nat.one_le_iff_ne_zero.mpr hzero, hle⟩
    · cases h
  · rintro ⟨path, line, column, rfl, line_plain, column_plain, denotes, hone, hle⟩
    have hnumber : Decimal.readWhole? Decimal.maxWord (Text.trimChars line) = some n :=
      Decimal.readWhole?_trimChars.mpr ⟨denotes, hle⟩
    have hzero : n ≠ 0 := Nat.one_le_iff_ne_zero.mp hone
    simp only [readHeader?, Text.cutLast_append column_plain, Text.cutLast_append line_plain,
      Option.bind_eq_bind, Option.bind_some, hnumber, if_neg hzero]

theorem Parts.IsRecord.cutFirst (h : p.IsRecord r) :
    Text.cutFirst separator p.text = some ('[' :: p.header, p.reason) :=
  Text.cutFirst_eq_some_iff.mpr ⟨rfl, onlyEndsWith_bracket.mpr h.separated⟩

/-- **A record is read if and only if it is written.** -/
theorem read?_eq_some_iff :
    read? line = some r ↔ ∃ p : Parts, StripsTo line p.text ∧ p.IsRecord r := by
  simp only [stripsTo_iff]
  constructor
  · intro h
    simp only [read?, Option.bind_eq_bind, Option.bind_eq_some_iff, Prod.exists] at h
    obtain ⟨header, reason, hcut, h⟩ := h
    split at h
    · cases h
    · next reason_ne =>
      obtain ⟨number, hheader, h⟩ := Option.bind_eq_some_iff.mp h
      obtain rfl := Option.some.inj h
      obtain ⟨path, line, column, rfl, line_plain, column_plain, denotes, hone, hle⟩ :=
        readHeader?_eq_some_iff.mp hheader
      obtain ⟨hleft, separated⟩ := Text.cutFirst_eq_some_iff.mp hcut
      refine ⟨⟨path, line, column, reason⟩, hleft, ?_⟩
      exact ⟨onlyEndsWith_bracket.mp separated, line_plain, column_plain, denotes, hone, hle,
        String.toList_ofList.symm, reason_ne⟩
  · rintro ⟨p, hleft, h⟩
    have hheader : readHeader? ('[' :: p.header) = some r.line :=
      readHeader?_eq_some_iff.mpr ⟨p.path, p.line, p.column, rfl, h.line_plain, h.column_plain,
        h.number, h.one_le, h.le_maxWord⟩
    have hreason : String.ofList p.reason = r.reason := by
      rw [h.reason_eq, String.ofList_toList]
    simp only [read?, hleft, h.cutFirst, Option.bind_eq_bind, Option.bind_some, if_neg h.reason_ne,
      hheader, hreason]

/-- **A line is a record in one way only.** -/
theorem Parts.IsRecord.unique (h : p.IsRecord r) (h' : p'.IsRecord r') (same : p.text = p'.text) :
    p = p' ∧ r = r' := by
  have hcut := h.cutFirst
  rw [same, h'.cutFirst, Option.some_inj, Prod.mk.injEq] at hcut
  obtain ⟨hheader, hreason⟩ := hcut
  have hcolumn : Text.cutLast ':' (p.path ++ ':' :: p.line ++ ':' :: p.column) =
      some (p.path ++ ':' :: p.line, p.column) := Text.cutLast_append h.column_plain
  have hfields : p.path ++ ':' :: p.line ++ ':' :: p.column = p'.header :=
    (List.cons.inj hheader).2.symm
  rw [hfields, Parts.header, Text.cutLast_append h'.column_plain, Option.some_inj,
    Prod.mk.injEq] at hcolumn
  obtain ⟨hfront, hcolumn⟩ := hcolumn
  have hline : Text.cutLast ':' (p.path ++ ':' :: p.line) = some (p.path, p.line) :=
    Text.cutLast_append h.line_plain
  rw [← hfront, Text.cutLast_append h'.line_plain, Option.some_inj, Prod.mk.injEq] at hline
  obtain ⟨hpath, hline⟩ := hline
  obtain ⟨path, line, column, reason⟩ := p
  obtain ⟨path', line', column', reason'⟩ := p'
  dsimp only at hpath hline hcolumn hreason
  subst hpath hline hcolumn hreason
  refine ⟨rfl, ?_⟩
  obtain ⟨number, text⟩ := r
  obtain ⟨number', text'⟩ := r'
  have hnumber := h.number.unique h'.number
  have htext := String.toList_inj.mp (h.reason_eq.symm.trans h'.reason_eq)
  dsimp only at hnumber htext
  rw [hnumber, htext]

/-! ### Lines of an output -/

/-- Line ends after a line do not matter for what is read. -/
theorem read?_append {ends : List Char} (hends : ∀ c ∈ ends, c = '\r' ∨ c = '\n') :
    read? (line ++ ends) = read? line := by
  rw [read?, read?, Text.dropEndWhile_append]
  simpa [isLineEnd] using hends

/-- The records of an output are those of its parts between line feeds. -/
theorem readAll_eq (output : List Char) :
    readAll output = (Text.splitAll '\n' output).filterMap read? := by
  obtain ⟨rest, hrest, hempty⟩ := Text.splitAll_lf output
  have hnone : rest.filterMap read? = [] := by
    refine List.filterMap_eq_nil_iff.mpr fun part hpart => ?_
    rw [hempty part hpart]
    rfl
  have hbody (l : Line) : read? l.beforeLf = read? l.body := by
    refine read?_append fun c hc => ?_
    split at hc
    · exact .inl (List.mem_singleton.mp hc)
    · cases hc
  rw [hrest, List.filterMap_append, hnone, List.append_nil, readAll, Text.lines,
    List.filterMap_map, List.filterMap_map]
  exact List.filterMap_congr fun l _ => (hbody l).symm

/-- **The records of two outputs, one after the other.** -/
theorem readAll_append (before after : List Char) :
    readAll (before ++ '\n' :: after) = readAll before ++ readAll after := by
  simp only [readAll_eq, Text.splitAll_append, List.filterMap_append]

/-! ### What is accepted -/

/-- No line is read as a record that stands for none. -/
theorem ofLine_eq_iff : ofLine line = r ∧ r ≠ absent ↔ read? line = some r := by
  cases hread : read? line with
  | none =>
    rw [ofLine, hread, Option.getD_none]
    exact iff_of_false (fun h => h.2 h.1.symm) nofun
  | some r₀ =>
    rw [ofLine, hread, Option.getD_some, Option.some_inj]
    refine and_iff_left_of_imp ?_
    rintro rfl rfl
    obtain ⟨p, -, h⟩ := read?_eq_some_iff.mp hread
    exact absurd h.one_le (by decide)

/-- **What is accepted as a record, and what becomes of two outputs.**

1. A line is read as a record, and not as the absent one, if and only if it has the form of this
   record without the line ends after it, and then it has this form in one way only.
2. It is read as the absent record, with the line zero and no reason, if and only if it has the form
   of no record.
3. The records of two outputs with a line feed in between are those of the one, followed by those of
   the other. -/
theorem ofLine_accepts (line : List Char) :
    (∀ r, ofLine line = r ∧ r ≠ absent ↔
      ∃! p : Parts, StripsTo line p.text ∧ p.IsRecord r) ∧
    (ofLine line = ⟨0, ""⟩ ↔ ¬ ∃ (p : Parts) (r : Record), StripsTo line p.text ∧ p.IsRecord r) ∧
    ∀ before after, readAll (before ++ '\n' :: after) = readAll before ++ readAll after := by
  refine ⟨fun r => ?_, ?_, readAll_append⟩
  · rw [ofLine_eq_iff, read?_eq_some_iff]
    constructor
    · rintro ⟨p, strips, h⟩
      refine ⟨p, ⟨strips, h⟩, fun p' ⟨strips', h'⟩ => (h'.unique h ?_).1⟩
      exact (stripsTo_iff.mp strips').symm.trans (stripsTo_iff.mp strips)
    · rintro ⟨p, h, -⟩
      exact ⟨p, h⟩
  · cases hread : read? line with
    | none =>
      refine iff_of_true (by rw [ofLine, hread]; rfl) ?_
      rintro ⟨p, r, h⟩
      rw [read?_eq_some_iff.mpr ⟨p, h⟩] at hread
      cases hread
    | some r =>
      have hne : ofLine line ≠ absent := (ofLine_eq_iff.mpr hread).1 ▸ (ofLine_eq_iff.mpr hread).2
      obtain ⟨p, h⟩ := read?_eq_some_iff.mp hread
      exact iff_of_false hne fun hnot => hnot ⟨p, r, h⟩

/-- A path with a drive and brackets, a number with a sign between blanks, and a bracket before the
separator. -/
example : ofLine "[C:\\a]b: +07\t:]] no ] good\r\n".toList = ⟨7, "no ] good"⟩ := by decide +kernel

end Record

end LintBridge
