import Mathlib.Data.List.Sort
import LintBridge.Proofs.Report.Grammar
import LintBridge.Proofs.Report.LineTable
import LintBridge.Proofs.Text.Lines
import LintBridge.Report.Diagnostic
import LintBridge.Report.Outcome

/-!
# From the output of the linter to diagnostics

What the linter writes to its error output is read line by line; the lines that are records decide
the outcome, and those of them whose line the document has become diagnostics, one for one and in
their order. A diagnostic covers its whole line and nothing else, and its message is a single line.

Which records an output has is said by the places of its lines and by the form of a record, not by
the way in which it is read: the records are listed by growing line numbers, so none is lost,
repeated or moved (`Record.IsTable`).

## Main definitions

* `Record.IsReportedAt`, `Record.IsReported` — a line of an output is a record.
* `Record.IsListing` — the records of an output, in the order in which they are reported.
* `Diagnostic.Shows` — a diagnostic shows a record on a text.

## Main results

* `Record.isListing_iff` — the records of an output are those on its lines, in their order.
* `LineTable.span?_ofText` — the span of a numbered line is that of the line at this place.
* `Outcome.diagnostics_of_classify` — what becomes of an output, in one statement.
-/

namespace LintBridge

/-! ### Records -/

namespace Record

/-- The line of the output that is numbered `n` is a record. -/
def IsReportedAt (output : List Char) (n : Nat) (r : Record) : Prop :=
  ∃ (l : Line) (p : Parts), Text.HasLine output n l ∧ StripsTo l.body p.text ∧ p.IsRecord r

/-- A line of the output is a record. -/
def IsReported (output : List Char) : Prop := ∃ n r, IsReportedAt output n r

/-- The records on the lines of an output, each with the number of its line, in the order of the
lines. -/
structure IsTable (output : List Char) (table : List (Nat × Record)) : Prop where
  ascending : table.Pairwise fun a b => a.1 < b.1
  mem_iff : ∀ n r, (n, r) ∈ table ↔ IsReportedAt output n r

/-- The records of an output, in the order in which they are reported: there is one for each line
that is a record, so the same one is listed as often as it is reported. -/
def IsListing (output : List Char) (records : List Record) : Prop :=
  ∃ table, IsTable output table ∧ table.map Prod.snd = records

variable {output : List Char} {table table' : List (Nat × Record)} {rs : List Record} {n : Nat}
  {r : Record}

theorem isReportedAt_iff :
    IsReportedAt output n r ↔ ∃ l, Text.HasLine output n l ∧ read? l.body = some r := by
  simp only [IsReportedAt, read?_eq_some_iff, exists_and_left]

/-- The reason of a reported record is not empty and has no line feed. -/
theorem IsReportedAt.reason (h : IsReportedAt output n r) :
    r.reason ≠ "" ∧ '\n' ∉ r.reason.toList := by
  obtain ⟨l, p, ⟨before, after, -, -, hs⟩, ⟨⟨ends, hbody, -⟩, -⟩, h⟩ := h
  have hpart : r.reason.toList <:+: l.body := by
    rw [hbody, ← h.reason_eq]
    exact ⟨'[' :: p.header ++ separator, ends, rfl⟩
  refine ⟨fun hnil => h.reason_ne ?_, fun hmem => hs.no_lf (hpart.subset hmem)⟩
  rw [h.reason_eq, hnil]
  rfl

/-- An output has one table only. -/
theorem IsTable.unique (h : IsTable output table) (h' : IsTable output table') :
    table = table' := by
  have : Std.Antisymm fun a b : Nat × Record => a.1 < b.1 := ⟨fun _ _ h h' => absurd h' h.asymm⟩
  have : Std.Irrefl fun a b : Nat × Record => a.1 < b.1 := ⟨fun a => Nat.lt_irrefl a.1⟩
  refine h.ascending.eq_of_mem_iff h'.ascending fun ⟨n, r⟩ => ?_
  rw [h.mem_iff, h'.mem_iff]

/-- The lines of an output that are read as records, with their numbers. -/
def readTable (output : List Char) : List (Nat × Record) :=
  (Text.splitLines output).zipIdx.filterMap fun line => (read? line.1.body).map (line.2, ·)

theorem map_snd_readTable : (readTable output).map Prod.snd = readAll output := by
  have hread (line : Line × Nat) :
      ((read? line.1.body).map (line.2, ·)).map Prod.snd = read? line.1.body := by
    rw [Option.map_map]
    exact Option.map_id'
  have hlines : (Text.splitLines output).zipIdx.map (Line.body ∘ Prod.fst) =
      Text.lines output := by
    rw [← List.map_map, List.zipIdx_map_fst, Text.lines]
  simp only [readTable, List.map_filterMap, hread]
  rw [readAll, ← hlines, List.filterMap_map]
  rfl

theorem mem_readTable_iff : (n, r) ∈ readTable output ↔ IsReportedAt output n r := by
  have hmem : (n, r) ∈ readTable output ↔
      ∃ l, (Text.splitLines output)[n]? = some l ∧ read? l.body = some r := by
    simp only [readTable, List.mem_filterMap, Option.map_eq_some_iff, Prod.mk.injEq, Prod.exists,
      List.mem_zipIdx_iff_getElem?]
    constructor
    · rintro ⟨l, _, hl, r, hr, rfl, rfl⟩
      exact ⟨l, hl, hr⟩
    · rintro ⟨l, hl, hr⟩
      exact ⟨l, n, hl, r, hr, rfl, rfl⟩
  rw [hmem, isReportedAt_iff]
  by_cases hne : output = []
  · subst hne
    refine iff_of_false nofun ?_
    rintro ⟨l, hl, hr⟩
    obtain ⟨-, rfl⟩ := Text.hasLine_nil.mp hl
    cases hr
  · simp only [Text.getElem?_splitLines hne]

/-- The lines that are read as records are those that are records, each at its place. -/
theorem isTable_readTable (output : List Char) : IsTable output (readTable output) where
  mem_iff _ _ := mem_readTable_iff
  ascending := by
    have hlines : (Text.splitLines output).zipIdx.Pairwise fun a b => a.2 < b.2 := by
      rw [← List.pairwise_map, List.zipIdx_map_snd]
      exact List.pairwise_lt_range'
    refine hlines.filterMap _ fun a a' hlt b hb b' hb' => ?_
    obtain ⟨r, -, rfl⟩ := Option.map_eq_some_iff.mp hb
    obtain ⟨r', -, rfl⟩ := Option.map_eq_some_iff.mp hb'
    exact hlt

/-- **The records of an output are those on its lines, in their order.** -/
theorem isListing_iff : IsListing output rs ↔ rs = readAll output := by
  rw [← map_snd_readTable]
  constructor
  · rintro ⟨table, h, rfl⟩
    rw [h.unique (isTable_readTable output)]
  · rintro rfl
    exact ⟨_, isTable_readTable output, rfl⟩

theorem mem_readAll_iff : r ∈ readAll output ↔ ∃ n, IsReportedAt output n r := by
  rw [← map_snd_readTable]
  simp only [List.mem_map, Prod.exists, exists_eq_right, mem_readTable_iff]

theorem isReported_iff : IsReported output ↔ readAll output ≠ [] := by
  simp only [ne_eq, List.eq_nil_iff_forall_not_mem, not_forall, not_not, mem_readAll_iff,
    IsReported]
  exact exists_comm

end Record

/-! ### The line table -/

namespace LineTable

variable {text line : List Char} {n : Nat}

theorem getElem?_shownLines :
    (Text.shownLines text)[n]? = some line ↔ ∃ l, Text.HasLine text n l ∧ l.body = line := by
  by_cases hne : text = []
  · subst hne
    have hshown : Text.shownLines [] = [[]] := rfl
    rw [hshown, List.getElem?_eq_some_iff]
    constructor
    · rintro ⟨hlt, rfl⟩
      obtain rfl : n = 0 := by simpa using hlt
      exact ⟨_, Text.hasLine_nil.mpr ⟨rfl, rfl⟩, rfl⟩
    · rintro ⟨l, hl, rfl⟩
      obtain ⟨rfl, rfl⟩ := Text.hasLine_nil.mp hl
      exact ⟨Nat.zero_lt_one, rfl⟩
  · have hshown : Text.shownLines text = (Text.splitLines text).map Line.body :=
      if_neg fun h => hne (Text.splitLines_eq_nil_iff.mp (List.map_eq_nil_iff.mp h))
    simp only [hshown, List.getElem?_map, Option.map_eq_some_iff, Text.getElem?_splitLines hne]

theorem length_shownLines : (Text.shownLines text).length = Text.lineCount text := by
  by_cases hne : text = []
  · subst hne
    rfl
  · rw [Text.shownLines, if_neg, Text.lines, List.length_map, Text.length_splitLines hne]
    exact fun h => hne (Text.splitLines_eq_nil_iff.mp (List.map_eq_nil_iff.mp h))

/-- **The span of a numbered line is that of the line at this place.** -/
theorem span?_ofText {s : Span} :
    (ofText text).span? n = some s ↔
      n = s.line + 1 ∧ ∃ l, Text.HasLine text s.line l ∧ s.endCharacter = Text.units l.body := by
  rw [span?_eq_some_iff]
  refine and_congr_right fun _ => ?_
  simp only [getElem?_shownLines]
  constructor
  · rintro ⟨_, ⟨l, hl, rfl⟩, hs⟩
    exact ⟨l, hl, hs⟩
  · rintro ⟨l, hl, hs⟩
    exact ⟨_, ⟨l, hl, rfl⟩, hs⟩

/-- A numbered line has a span if and only if the text has so many lines. -/
theorem isSome_span?_ofText :
    ((ofText text).span? n).isSome ↔ 1 ≤ n ∧ n ≤ Text.lineCount text := by
  rw [← length_shownLines, ← List.length_map Text.units, ← widths_ofText]
  cases n with
  | zero => simp [span?]
  | succ n =>
    have hpos : 1 ≤ n + 1 := Nat.le_add_left 1 n
    simp only [span?, Option.isSome_map, isSome_getElem?, hpos, true_and]
    rfl

end LineTable

/-! ### Diagnostics -/

/-- A diagnostic shows a record on a text: its message is the reason, and its range is the whole
line of the text that the record speaks of, from the first character to the last. -/
structure Diagnostic.Shows (d : Diagnostic) (r : Record) (text : List Char) : Prop where
  message : d.message = r.reason
  range : ∃ n l, r.line = n + 1 ∧ Text.HasLine text n l ∧
    d.range = ⟨⟨n, 0⟩, ⟨n, Text.units l.body⟩⟩

namespace LineTable

/-- **The records that speak of a line of the text are resolved**, one for one and in order. -/
theorem resolve_ofText (text : List Char) (records : List Record) :
    List.Forall₂ (fun r d => Diagnostic.Shows d r text)
      (records.filter fun r => 1 ≤ r.line ∧ r.line ≤ Text.lineCount text)
      (((ofText text).resolve records).map .ofFinding) := by
  induction records with
  | nil => exact .nil
  | cons r rs ih =>
    cases hspan : (ofText text).span? r.line with
    | none =>
      have hout : ¬ (1 ≤ r.line ∧ r.line ≤ Text.lineCount text) := by
        rw [← isSome_span?_ofText, hspan]
        exact Bool.false_ne_true
      rw [List.filter_cons_of_neg (by simpa using hout)]
      simpa [resolve, hspan] using ih
    | some s =>
      have hin : 1 ≤ r.line ∧ r.line ≤ Text.lineCount text := by
        rw [← isSome_span?_ofText, hspan]
        rfl
      obtain ⟨hline, l, hl, hend⟩ := span?_ofText.mp hspan
      have shows : Diagnostic.Shows (.ofFinding ⟨r, s⟩) r text :=
        ⟨rfl, s.line, l, hline, hl, by rw [Diagnostic.ofFinding, Span.range, hend]⟩
      rw [List.filter_cons_of_pos (by simpa using hin)]
      simpa [resolve, hspan] using And.intro shows ih

end LineTable

/-! ### Outcomes -/

namespace Outcome

variable {success : Bool} {status stderr : String}

theorem classify_of_isReported (h : Record.IsReported stderr.toList) :
    classify success status stderr = .problems (Record.readAll stderr.toList) := by
  obtain ⟨r, rs, hrs⟩ := List.exists_cons_of_ne_nil (Record.isReported_iff.mp h)
  rw [classify, hrs]

theorem classify_of_not_isReported (h : ¬ Record.IsReported stderr.toList) :
    classify success status stderr =
      if success then .clean else .toolFailure (failureMessage status (Text.trim stderr)) := by
  rw [classify, not_not.mp (mt Record.isReported_iff.mpr h)]

/-- What a finished run has reported are the records of its output. -/
theorem records_classify :
    (classify success status stderr).records = Record.readAll stderr.toList := by
  by_cases h : Record.IsReported stderr.toList
  · rw [classify_of_isReported h]
    rfl
  · rw [classify_of_not_isReported h, not_not.mp (mt Record.isReported_iff.mpr h)]
    split <;> rfl

/-- **What becomes of the output of a finished run.**

1. The run has found problems if and only if some line of its output is a record, whatever its exit
   status, and then the problems are the records in the order in which they are reported. Otherwise
   it is clean if it has ended successfully, and a failure of the tool if not.
2. The diagnostics for a text show the reported records whose line the text has, one for one and in
   the order in which they were reported; each of them covers its whole line.
3. No message is empty or has a line feed.
4. An outcome other than problems yields no diagnostics. -/
theorem diagnostics_of_classify (success : Bool) (status stderr text : String) :
    (∀ rs, classify success status stderr = .problems rs ↔
      Record.IsReported stderr.toList ∧ Record.IsListing stderr.toList rs) ∧
    (classify success status stderr = .clean ↔
      ¬ Record.IsReported stderr.toList ∧ success = true) ∧
    ((∃ message, classify success status stderr = .toolFailure message) ↔
      ¬ Record.IsReported stderr.toList ∧ success = false) ∧
    (∃ reported, Record.IsListing stderr.toList reported ∧
      List.Forall₂ (fun r d => Diagnostic.Shows d r text.toList)
        (reported.filter fun r => 1 ≤ r.line ∧ r.line ≤ Text.lineCount text.toList)
        (((classify success status stderr).findings text).map .ofFinding)) ∧
    (∀ f ∈ (classify success status stderr).findings text,
      (Diagnostic.ofFinding f).message ≠ "" ∧ '\n' ∉ (Diagnostic.ofFinding f).message.toList) ∧
    ∀ o : Outcome, (∀ rs, o ≠ .problems rs) → (o.findings text).map Diagnostic.ofFinding = [] := by
  refine ⟨fun rs => ?problems, ?clean, ?failure, ?shown, ?messages, ?others⟩
  case problems =>
    rw [Record.isListing_iff]
    by_cases h : Record.IsReported stderr.toList
    · simp [classify_of_isReported h, h, eq_comm]
    · cases success <;> simp [classify_of_not_isReported h, h]
  case clean | failure =>
    by_cases h : Record.IsReported stderr.toList
    · simp [classify_of_isReported h, h]
    · cases success <;> simp [classify_of_not_isReported h, h]
  case shown =>
    refine ⟨_, Record.isListing_iff.mpr rfl, ?_⟩
    rw [findings, records_classify]
    exact LineTable.resolve_ofText _ _
  case messages =>
    intro f hf
    rw [findings, records_classify, LineTable.resolve] at hf
    obtain ⟨r, hr, hf⟩ := List.mem_filterMap.mp hf
    obtain ⟨s, -, rfl⟩ := Option.map_eq_some_iff.mp hf
    obtain ⟨n, h⟩ := Record.mem_readAll_iff.mp hr
    exact h.reason
  case others =>
    intro o ho
    rw [findings_eq_nil text ho, List.map_nil]

/-- A successful run that has reported four problems between other lines, one of them twice and one
on a line that the text does not have. Of the two lines of the text the second is not ASCII and ends
with a carriage return and a line feed. -/
theorem noisy_diagnosed :
    let stderr := "ran\r\n[C:\\a b:2:7] no ] good\r\n[a:3:1] gone\n[a:1:1] odd\n[a:2:9] no ] good"
    let o := classify true "exit status: 0" stderr
    let ds := (o.findings "é\n🎉b\r\n").map Diagnostic.ofFinding
    ds = [⟨⟨⟨1, 0⟩, ⟨1, 3⟩⟩, "no ] good"⟩, ⟨⟨⟨0, 0⟩, ⟨0, 1⟩⟩, "odd"⟩,
        ⟨⟨⟨1, 0⟩, ⟨1, 3⟩⟩, "no ] good"⟩] ∧
      Record.IsReported stderr.toList ∧
      Record.IsListing stderr.toList
        [⟨2, "no ] good"⟩, ⟨3, "gone"⟩, ⟨1, "odd"⟩, ⟨2, "no ] good"⟩] ∧
      (∀ f ∈ o.findings "é\n🎉b\r\n", '\n' ∉ (Diagnostic.ofFinding f).message.toList) ∧
      (Outcome.clean.findings "é\n🎉b\r\n").map Diagnostic.ofFinding = [] := by
  intro stderr o ds
  obtain ⟨problems, -, -, -, messages, others⟩ :=
    diagnostics_of_classify true "exit status: 0" stderr "é\n🎉b\r\n"
  have found : o = .problems [⟨2, "no ] good"⟩, ⟨3, "gone"⟩, ⟨1, "odd"⟩, ⟨2, "no ] good"⟩] := by
    decide +kernel
  obtain ⟨reported, listing⟩ := (problems _).mp found
  exact ⟨by decide +kernel, reported, listing, fun f hf => (messages f hf).2, others .clean nofun⟩

end Outcome

end LintBridge
