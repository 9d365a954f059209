import LintBridge.Proofs.Report.Grammar

/-!
# Records are read back as they were written

The linter writes a problem on a line of its own, between other lines that have nothing to do with
it. The path of the file is written as it is, and so is the reason. All the records come back, in
order and with nothing between them, if and only if the path does not hold the separator `] `
itself, or if there is none to come back (`Record.readAll_report_iff`). Colons, blanks and brackets
are no matter, nor is what the reason holds.

A path that holds the separator cannot be helped by another rule for reading: an output can be that
of two different problems (`Record.report_ambiguous`).

## Main definitions

* `Record.IsFit` — what the linter may report.
* `Record.Remark`, `Record.report` — what stands on a line of the output, and the whole output.

## Main results

* `Record.read?_write` — a record is read back if the path does not hold the separator.
* `Record.read?_write_ne` — no record is read back otherwise.
-/

namespace LintBridge

namespace Record

variable {path text header : List Char} {column : Nat} {r : Record}

/-! ### Where the separator occurs -/

/-- A colon is no part of the separator. -/
theorem separator_infix_append {xs ys : List Char} :
    separator <:+: xs ++ ':' :: ys ↔ separator <:+: xs ∨ separator <:+: ys := by
  induction xs with
  | nil =>
    have hcolon : ¬ separator <+: ':' :: ys := by
      rintro ⟨rest, hrest⟩
      cases hrest
    rw [List.nil_append, List.infix_cons_iff, or_iff_right hcolon, or_iff_right]
    exact fun h => absurd (List.infix_nil.mp h) nofun
  | cons x xs ih =>
    have hfirst : separator <+: x :: (xs ++ ':' :: ys) ↔ separator <+: x :: xs := by
      cases xs with
      | nil => simp [separator]
      | cons y xs => simp [separator]
    rw [List.cons_append, List.infix_cons_iff, List.infix_cons_iff, hfirst, ih, or_assoc]

theorem separator_not_infix_digits (n : Nat) : ¬ separator <:+: Decimal.digits n := by
  intro h
  exact Decimal.not_mem_digits rfl n (h.subset List.mem_cons_self)

/-- What does not hold the separator holds it only at its end once the separator is put there. -/
theorem onlyEndsWith_iff :
    Text.OnlyEndsWith separator (header ++ separator) ↔ ¬ separator <:+: header := by
  rw [Text.onlyEndsWith_append]
  constructor
  · rintro only ⟨before, after, rfl⟩
    have hempty := only before (after ++ separator) (by simp only [List.append_assoc])
    exact absurd (List.append_eq_nil_iff.mp hempty).2 nofun
  · intro h before after heq
    rcases List.append_eq_append_iff.mp heq with ⟨shared, hbefore, hshared⟩ | ⟨more, hheader, -⟩
    · -- The separator at the end and the other one share a part, so they are the same.
      rcases shared with _ | ⟨c, _ | ⟨d, shared⟩⟩
      · exact absurd ⟨before, [], by simpa using hbefore⟩ h
      · have hlast := congrArg List.getLast? hbefore
        obtain rfl : ']' = c := (List.cons.inj hshared).1
        simp [separator] at hlast
      · have hrest := (List.cons.inj (List.cons.inj hshared).2).2
        exact (List.append_eq_nil_iff.mp hrest.symm).2
    · exact absurd ⟨before, more, hheader.symm⟩ h

/-! ### One record -/

/-- What the linter may report. -/
structure IsFit (r : Record) : Prop where
  /-- Lines are counted from one. -/
  one_le : 1 ≤ r.line
  le_maxWord : r.line ≤ 4294967295
  reason_ne : r.reason ≠ ""
  no_lf : '\n' ∉ r.reason.toList
  no_cr : r.reason.toList.getLast? ≠ some '\r'

instance (r : Record) : Decidable r.IsFit :=
  decidable_of_iff (1 ≤ r.line ∧ r.line ≤ 4294967295 ∧ r.reason ≠ "" ∧ '\n' ∉ r.reason.toList ∧
      r.reason.toList.getLast? ≠ some '\r')
    ⟨fun ⟨one_le, le_maxWord, reason_ne, no_lf, no_cr⟩ =>
        ⟨one_le, le_maxWord, reason_ne, no_lf, no_cr⟩,
      fun fit => ⟨fit.one_le, fit.le_maxWord, fit.reason_ne, fit.no_lf, fit.no_cr⟩⟩

/-- The parts that a record is written with. -/
def parts (path : List Char) (column : Nat) (r : Record) : Parts :=
  ⟨path, Decimal.digits r.line, Decimal.digits column, r.reason.toList⟩

theorem write_eq : write path column r = (parts path column r).text := by
  simp [write, Parts.text, Parts.header, parts]

theorem IsFit.toList_ne (fit : r.IsFit) : r.reason.toList ≠ [] :=
  fun h => fit.reason_ne (String.toList_eq_nil_iff.mp h)

/-- What is written for a record ends with its reason. -/
theorem getLast?_write (hne : r.reason.toList ≠ []) :
    (write path column r).getLast? = r.reason.toList.getLast? := by
  rw [write, List.getLast?_append_of_ne_nil _ hne]

theorem denotes_digits (n : Nat) : Decimal.Denotes (Decimal.digits n) n := by
  obtain ⟨d, ds, hdigits, -⟩ := Decimal.digits_eq_cons n
  refine ⟨[], Decimal.digits n, [], by simp, nofun, nofun, [], Decimal.digits n, rfl, .inl rfl,
    hdigits ▸ List.cons_ne_nil d ds, fun c hc => Decimal.isDigit_of_mem_digits hc, ?_⟩
  rw [← Decimal.digitsValue_eq, Decimal.digitsValue_digits]

/-- The header of a record holds the separator only in its path. -/
theorem separator_infix_header :
    separator <:+: (parts path column r).header ↔ separator <:+: path := by
  have hline : ¬ separator <:+: (parts path column r).line := separator_not_infix_digits _
  have hcolumn : ¬ separator <:+: (parts path column r).column := separator_not_infix_digits _
  rw [Parts.header, separator_infix_append, separator_infix_append, or_iff_left hcolumn,
    or_iff_left hline]
  rfl

/-- **A record is read back if the path does not hold the separator.** -/
theorem read?_write (fit : r.IsFit) (plain : ¬ separator <:+: path) :
    read? (write path column r) = some r := by
  have hlast : ∀ c ∈ (write path column r).getLast?, c ≠ '\r' ∧ c ≠ '\n' := by
    intro c hc
    rw [getLast?_write fit.toList_ne] at hc
    refine ⟨?_, ?_⟩
    · rintro rfl
      exact fit.no_cr hc
    · rintro rfl
      exact fit.no_lf (List.mem_of_getLast? hc)
  refine read?_eq_some_iff.mpr ⟨parts path column r, ⟨⟨[], ?_, nofun⟩, write_eq ▸ hlast⟩, ?_⟩
  · rw [List.append_nil, write_eq]
  · exact ⟨onlyEndsWith_iff.mpr (mt separator_infix_header.mp plain), Decimal.not_mem_digits rfl _,
      Decimal.not_mem_digits rfl _, denotes_digits _, fit.one_le, fit.le_maxWord, rfl,
      fit.toList_ne⟩

/-- **No record is read back if the path holds the separator.** Its reason cannot be all that is
read as the reason, since the header that is read ends in the path. -/
theorem read?_write_ne (holds : separator <:+: path) : read? (write path column r) ≠ some r := by
  intro h
  obtain ⟨p, strips, hp⟩ := read?_eq_some_iff.mp h
  have hne : r.reason.toList ≠ [] := hp.reason_eq ▸ hp.reason_ne
  have hlast : (write path column r).getLast? = p.text.getLast? := by
    rw [getLast?_write hne, Parts.text, List.getLast?_append_of_ne_nil _ hp.reason_ne, hp.reason_eq]
  have htext : write path column r = p.text := by
    refine (Text.dropEndWhile_eq_self fun c hc => ?_).symm.trans (stripsTo_iff.mp strips)
    simpa [isLineEnd] using strips.2 c (hlast ▸ hc)
  have hheader : (parts path column r).header = p.header := by
    rw [write_eq, Parts.text, Parts.text, hp.reason_eq] at htext
    exact (List.cons.inj (List.append_cancel_right (List.append_cancel_right htext))).2
  exact onlyEndsWith_iff.mp hp.separated (hheader ▸ separator_infix_header.mpr holds)

/-! ### A whole output -/

/-- What stands on a line of the output. -/
inductive Remark where
  /-- A problem, at a column of its line. -/
  | problem (column : Nat) (r : Record)
  /-- Something else. -/
  | other (text : List Char)

/-- What stands on the line of a remark about a file. -/
def Remark.write (path : List Char) : Remark → List Char
  | .problem column r => r.write path column
  | .other text => text

/-- The problem that a remark is about, if there is one. -/
def Remark.record? : Remark → Option Record
  | .problem _ r => some r
  | .other _ => none

/-- The remark can be made: other lines do not hold the separator. -/
def Remark.IsFit : Remark → Prop
  | .problem _ r => r.IsFit
  | .other text => '\n' ∉ text ∧ ¬ separator <:+: text

instance : DecidablePred Remark.IsFit
  | .problem _ r => inferInstanceAs (Decidable r.IsFit)
  | .other text => inferInstanceAs (Decidable ('\n' ∉ text ∧ ¬ separator <:+: text))

/-- The output that some remarks about a file make, with the endings of their lines. -/
def report (path : List Char) (lines : List (Remark × LineEnding)) : List Char :=
  lines.flatMap fun (remark, ending) => remark.write path ++ ending.chars

/-- The problems that some remarks are about. -/
def problems (lines : List (Remark × LineEnding)) : List Record :=
  lines.filterMap fun l => l.1.record?

theorem read?_eq_none_of_not_infix (h : ¬ separator <:+: text) : read? text = none := by
  refine Option.eq_none_iff_forall_ne_some.mpr fun r hr => ?_
  obtain ⟨p, ⟨⟨ends, rfl, -⟩, -⟩, -⟩ := read?_eq_some_iff.mp hr
  exact h ⟨'[' :: p.header, p.reason ++ ends, by simp [Parts.text]⟩

/-- No line feed is written for a remark. -/
theorem Remark.IsFit.no_lf {remark : Remark} (fit : remark.IsFit) (hpath : '\n' ∉ path) :
    '\n' ∉ remark.write path := by
  cases remark with
  | other text => exact fit.1
  | problem column r =>
    have hdigits := @Decimal.not_mem_digits '\n' rfl
    have hfit : r.IsFit := fit
    have hreason := hfit.no_lf
    simp [Remark.write, Record.write, separator, hpath, hdigits, hreason]

theorem readAll_of_no_lf (h : '\n' ∉ text) : readAll text = (read? text).toList := by
  rw [readAll_eq, Text.splitAll_eq_singleton h]
  cases hread : read? text <;> simp [hread]

/-- The records of an output are read line by line. -/
theorem readAll_report (hpath : '\n' ∉ path) {lines : List (Remark × LineEnding)}
    (fit : ∀ l ∈ lines, l.1.IsFit) (ended : ∀ l ∈ lines, l.2 ≠ .endOfText) :
    readAll (report path lines) = lines.filterMap fun l => read? (l.1.write path) := by
  induction lines with
  | nil => rfl
  | cons l lines ih =>
    obtain ⟨remark, ending⟩ := l
    have ih := ih (fun l hl => fit l (List.mem_cons_of_mem _ hl))
      fun l hl => ended l (List.mem_cons_of_mem _ hl)
    have no_lf : '\n' ∉ remark.write path := (fit _ List.mem_cons_self).no_lf hpath
    have hcons : report path ((remark, ending) :: lines) =
        remark.write path ++ ending.chars ++ report path lines := rfl
    obtain ⟨cr, hchars, hcr⟩ : ∃ cr, ending.chars = cr ++ ['\n'] ∧ ∀ c ∈ cr, c = '\r' := by
      cases ending with
      | endOfText => exact absurd rfl (ended _ List.mem_cons_self)
      | lf => exact ⟨[], rfl, nofun⟩
      | crlf => exact ⟨['\r'], rfl, by simp⟩
    have hline : '\n' ∉ remark.write path ++ cr := by
      rintro hmem
      rcases List.mem_append.mp hmem with hmem | hmem
      · exact no_lf hmem
      · exact absurd (hcr _ hmem) (by decide)
    have hsplit : report path ((remark, ending) :: lines) =
        (remark.write path ++ cr) ++ '\n' :: report path lines := by
      rw [hcons, hchars, ← List.append_assoc, List.append_assoc _ ['\n']]
      rfl
    rw [hsplit, readAll_append, ih, readAll_of_no_lf hline,
      read?_append fun c hc => .inl (hcr c hc), List.filterMap_cons]
    cases read? (remark.write path) <;> rfl

/-- If nothing comes back as what it was, all that comes back is what was only if there was
nothing. -/
private theorem filterMap_eq_nil {α β : Type} {now was : α → Option β} {xs : List α}
    (none_of_none : ∀ x ∈ xs, was x = none → now x = none)
    (changed : ∀ x ∈ xs, ∀ y, was x = some y → now x ≠ some y)
    (same : xs.filterMap now = xs.filterMap was) : xs.filterMap was = [] := by
  induction xs with
  | nil => rfl
  | cons x xs ih =>
    have none_of_none' := fun x' hx' => none_of_none x' (List.mem_cons_of_mem x hx')
    have hlength : (xs.filterMap now).length ≤ (xs.filterMap was).length := by
      rw [List.length_filterMap_eq_countP, List.length_filterMap_eq_countP]
      refine List.countP_mono_left fun x' hx' hsome => ?_
      by_contra hnone
      rw [none_of_none' x' hx' (by simpa using hnone)] at hsome
      cases hsome
    cases hwas : was x with
    | none =>
      rw [List.filterMap_cons_none (none_of_none x List.mem_cons_self hwas),
        List.filterMap_cons_none hwas] at same
      rw [List.filterMap_cons_none hwas]
      exact ih none_of_none' (fun x' hx' => changed x' (List.mem_cons_of_mem x hx')) same
    | some y =>
      rw [List.filterMap_cons_some hwas] at same
      cases hnow : now x with
      | none =>
        rw [List.filterMap_cons_none hnow] at same
        rw [same, List.length_cons] at hlength
        exact absurd hlength (Nat.not_succ_le_self _)
      | some y' =>
        rw [List.filterMap_cons_some hnow] at same
        obtain rfl := (List.cons.inj same).1
        exact absurd hnow (changed x List.mem_cons_self y' hwas)

/-- **All the problems of an output come back**, in order and with nothing between them, if and only
if the path does not hold the separator or there is no problem at all. -/
theorem readAll_report_iff (hpath : '\n' ∉ path) {lines : List (Remark × LineEnding)}
    (fit : ∀ l ∈ lines, l.1.IsFit) (ended : ∀ l ∈ lines, l.2 ≠ .endOfText) :
    readAll (report path lines) = problems lines ↔
      ¬ separator <:+: path ∨ problems lines = [] := by
  rw [readAll_report hpath fit ended, problems]
  have other : ∀ l ∈ lines, l.1.record? = none → read? (l.1.write path) = none := by
    rintro ⟨_ | text, ending⟩ hl hnone
    · cases hnone
    · exact read?_eq_none_of_not_infix (fit _ hl).2
  by_cases holds : separator <:+: path
  · rw [or_iff_right (not_not.mpr holds)]
    constructor
    · refine filterMap_eq_nil other ?_
      rintro ⟨column | text, ending⟩ - r hr
      · obtain rfl := Option.some.inj hr
        exact read?_write_ne holds
      · cases hr
    · intro hnone
      rw [hnone, List.filterMap_eq_nil_iff]
      exact fun l hl => other l hl (List.filterMap_eq_nil_iff.mp hnone l hl)
  · refine iff_of_true (List.filterMap_congr fun l hl => ?_) (.inl holds)
    obtain ⟨column | text, ending⟩ := l
    · exact read?_write (fit _ hl) holds
    · exact other _ hl rfl

/-- A path with a drive, blanks and brackets, and problems between other lines: the last line there
is, and a reason with a separator and a carriage return. -/
theorem readAll_report_drive :
    let path := "C:\\my [own]: files]".toList
    let lines : List (Remark × LineEnding) := [(.other "checked ]\r".toList, .crlf),
      (.problem 5 ⟨4294967295, "no ] good:\r so"⟩, .crlf), (.other [], .lf),
      (.problem 0 ⟨1, "]"⟩, .lf)]
    ¬ separator <:+: path ∧
      readAll (report path lines) = [⟨4294967295, "no ] good:\r so"⟩, ⟨1, "]"⟩] := by
  intro path lines
  have plain : ¬ separator <:+: path := by decide +kernel
  have fit : ∀ l ∈ lines, l.1.IsFit := by decide +kernel
  have ended : ∀ l ∈ lines, l.2 ≠ .endOfText := by decide +kernel
  exact ⟨plain, (readAll_report_iff (by decide +kernel) fit ended).mpr (.inl plain)⟩

/-- **An output can be that of two different problems**, for two different paths. Only one of them
can come back, and it is the one whose path does not hold the separator. -/
theorem report_ambiguous :
    let output := report "a:1:1] b".toList [(.problem 2 ⟨2, "c"⟩, .lf)]
    output = report "a".toList [(.problem 1 ⟨1, "b:2:2] c"⟩, .lf)] ∧
      readAll output = [⟨1, "b:2:2] c"⟩] := by
  decide +kernel

end Record

end LintBridge
