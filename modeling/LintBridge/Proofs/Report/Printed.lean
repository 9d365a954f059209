import LintBridge.CommandLine.Run
import LintBridge.Proofs.Json.Documents
import LintBridge.Proofs.Text.Lines

/-!
# What is printed tells what was found

A program that reads the printed document is told everything that the reports say
(`ToldReport.readAll?_json`): in their order, the paths as they are displayed, the problems of each
file, and why a file could not be linted. A text of any characters comes through, and so does a list
of any length.

A reader of the other form is told the number of files and of problems on the last line, and the
line can be read in one way only (`FileReport.summaryLine_inj`). The document holds that many
problems, and the command says that it has found some if and only if the number is positive,
whatever the form.

## Main definitions

* `ToldReport`, `ToldProblem` — what a program is told.
* `ToldReport.readAll?` — how it reads what was printed.
* `FileReport.IsCounted` — the numbers have 64 bits.

## Main results

* `ToldReport.readAll?_json` — the reports are read back from the document.
* `FileReport.getLast?_lines_text` — the last line is the summary.
* `FileReport.survive_printing` — both forms and the answer of the command agree.
-/

namespace LintBridge

/-! ### What a program is told -/

namespace Json

/-- The number, if the value is a count. -/
def count? : Json → Option Nat
  | .int (.ofNat n) => some n
  | _ => none

/-- The text or its absence, if the value is a text or null. -/
def optionalText? : Json → Option (Option String)
  | .null => some none
  | .str s => some (some s)
  | _ => none

theorem count?_ofNat (n : Nat) : (ofNat n).count? = some n := rfl

theorem optionalText?_ofText? (s : Option String) : (ofText? s).optionalText? = some s := by
  cases s <;> rfl

end Json

/-- A problem, as a program is told of it. -/
structure ToldProblem where
  line : Nat
  endCharacter : Nat
  message : String
  deriving DecidableEq, Repr

/-- A report, as a program is told of it. -/
structure ToldReport where
  path : String
  problems : List ToldProblem
  failure : Option String
  deriving DecidableEq, Repr

/-- The problem that a value denotes. -/
def ToldProblem.read? (j : Json) : Option ToldProblem := do
  let line ← (j.get? "line").bind Json.count?
  let endCharacter ← (j.get? "endCharacter").bind Json.count?
  let message ← (j.get? "message").bind Json.text?
  some ⟨line, endCharacter, message⟩

namespace ToldReport

/-- The report that a value denotes. -/
def read? (j : Json) : Option ToldReport := do
  let path ← (j.get? "path").bind Json.text?
  let items ← (j.get? "diagnostics").bind Json.items?
  let problems ← items.mapM ToldProblem.read?
  let failure ← (j.get? "error").bind Json.optionalText?
  some ⟨path, problems, failure⟩

/-- The reports that a text tells of, if it is one document and nothing else. -/
def readAll? (text : String) : Option (List ToldReport) := do
  let items ← (Json.read? text).bind Json.items?
  items.mapM read?

/-- How many problems are told of. -/
def problemCount (told : List ToldReport) : Nat := (told.flatMap ToldReport.problems).length

end ToldReport

/-- What is to be told of a finding. -/
def Finding.told (f : Finding) : ToldProblem :=
  ⟨f.record.line, f.span.endCharacter, f.record.reason⟩

namespace FileReport

variable {r : FileReport} {reports : List FileReport} {f : Finding}

/-- What is to be told of a file. -/
def told (r : FileReport) : ToldReport := ⟨r.path.display, r.findings.map Finding.told, r.failure⟩

/-- The numbers have 64 bits at most; lines and characters are counted in 32. The reader of the
document takes a longer number for a double. -/
structure IsCounted (r : FileReport) : Prop where
  line : ∀ f ∈ r.findings, f.record.line ≤ Decimal.maxLong
  endCharacter : ∀ f ∈ r.findings, f.span.endCharacter ≤ Decimal.maxLong

/-! ### The document -/

theorem read?_findingJson (f : Finding) : ToldProblem.read? (findingJson f) = some f.told := by
  simp [ToldProblem.read?, findingJson, Json.ofFields, Fields.ofList, Json.get?, Json.fields?,
    Fields.get?_insert, Json.count?_ofNat, Json.text?, Finding.told]

/-- Values that are read one by one are read in a row. -/
theorem mapM_map_eq_some {α β γ : Type} {write : α → β} {read : β → Option γ} {told : α → γ}
    (h : ∀ a, read (write a) = some (told a)) (as : List α) :
    (as.map write).mapM read = some (as.map told) := by
  induction as with
  | nil => rfl
  | cons a as ih => simp [h, ih]

theorem read?_toJson (r : FileReport) : ToldReport.read? r.toJson = some r.told := by
  have hproblems := mapM_map_eq_some read?_findingJson r.findings
  simp [ToldReport.read?, toJson, Json.ofFields, Fields.ofList, Json.get?, Json.fields?,
    Fields.get?_insert, Json.optionalText?_ofText?, Json.text?, Json.items?, hproblems, told]

theorem isDocument_findingJson {n : Nat} (hline : f.record.line ≤ Decimal.maxLong)
    (hend : f.span.endCharacter ≤ Decimal.maxLong) : (findingJson f).IsDocument (n + 1) := by
  refine .ofFields ?_
  simp only [List.forall_mem_cons]
  exact ⟨.count hend, .count hline, .text _, nofun⟩

theorem isDocument_toJson {n : Nat} (h : r.IsCounted) : r.toJson.IsDocument (n + 3) := by
  have hproblems : ∀ j ∈ r.findings.map findingJson, j.IsDocument (n + 1) := by
    intro j hj
    obtain ⟨f, hf, rfl⟩ := List.mem_map.mp hj
    exact isDocument_findingJson (h.line f hf) (h.endCharacter f hf)
  refine .ofFields ?_
  simp only [List.forall_mem_cons]
  exact ⟨.arr hproblems, .text? _, .text _, nofun⟩

/-- **The reports are read back from the document**, in their order. -/
theorem readAll?_json (h : ∀ r ∈ reports, r.IsCounted) :
    ToldReport.readAll? (json reports) = some (reports.map told) := by
  have hdocument : (Json.arr (reports.map toJson)).IsDocument 127 := by
    refine .arr fun j hj => ?_
    obtain ⟨r, hr, rfl⟩ := List.mem_map.mp hj
    exact isDocument_toJson (h r hr)
  rw [ToldReport.readAll?, json, Json.read?_pretty hdocument]
  exact mapM_map_eq_some read?_toJson reports

/-! ### The summary -/

/-- The last line of the form for people. -/
def summaryLine (files problems : Nat) : String :=
  "Checked " ++ toString files ++ " files, found " ++ toString problems ++ " problems"

theorem toList_summaryLine (files problems : Nat) : (summaryLine files problems).toList =
    "Checked ".toList ++ (Decimal.digits files ++ (" files, found ".toList ++
      (Decimal.digits problems ++ " problems".toList))) := by
  simp only [summaryLine, String.toList_append, List.append_assoc, Decimal.digits]

/-- The number at the head of a text is known by its digits if no other digit follows. -/
theorem digits_append_inj {n n' : Nat} {rest rest' : List Char}
    (hrest : ∀ c ∈ rest.head?, Decimal.isDigit c = false)
    (hrest' : ∀ c ∈ rest'.head?, Decimal.isDigit c = false)
    (h : Decimal.digits n ++ rest = Decimal.digits n' ++ rest') : n = n' ∧ rest = rest' := by
  have hspan := congrArg Numeral.spanDigits h
  rw [Numeral.spanDigits_append (fun c => Decimal.isDigit_of_mem_digits) hrest,
    Numeral.spanDigits_append (fun c => Decimal.isDigit_of_mem_digits) hrest'] at hspan
  obtain ⟨hdigits, htail⟩ := Prod.mk.inj hspan
  exact ⟨Decimal.digits_inj hdigits, htail⟩

/-- **The summary tells its numbers.** -/
theorem summaryLine_inj {files problems files' problems' : Nat} :
    summaryLine files problems = summaryLine files' problems' ↔
      files = files' ∧ problems = problems' := by
  have hfound (cs : List Char) :
      ∀ c ∈ (" files, found ".toList ++ cs).head?, Decimal.isDigit c = false := by
    rintro c ⟨⟩
    rfl
  have hend : ∀ c ∈ " problems".toList.head?, Decimal.isDigit c = false := by
    rintro c ⟨⟩
    rfl
  constructor
  · intro h
    have hlist := congrArg String.toList h
    rw [toList_summaryLine, toList_summaryLine] at hlist
    obtain ⟨hfiles, hrest⟩ :=
      digits_append_inj (hfound _) (hfound _) (List.append_cancel_left hlist)
    exact ⟨hfiles, (digits_append_inj hend hend (List.append_cancel_left hrest)).1⟩
  · rintro ⟨rfl, rfl⟩
    rfl

theorem getLast?_summaryLine (files problems : Nat) :
    (summaryLine files problems).toList.getLast? = some 's' := by
  rw [toList_summaryLine, List.getLast?_append, List.getLast?_append, List.getLast?_append,
    List.getLast?_append]
  rfl

theorem lf_not_mem_summaryLine (files problems : Nat) :
    '\n' ∉ (summaryLine files problems).toList := by
  have hdigits := @Decimal.not_mem_digits '\n' rfl
  rw [toList_summaryLine]
  simp [hdigits]

/-- **The summary is the last line** of the form for people. -/
theorem getLast?_lines_text (reports : List FileReport) :
    (Text.lines (text reports).toList).getLast? =
      some (summaryLine reports.length (problemCount reports)).toList := by
  have htext : (text reports).toList = (String.join (reports.map textBlock)).toList ++
      '\n' :: ((summaryLine reports.length (problemCount reports)).toList ++ ['\n']) := by
    simp [text, summaryLine]
  rw [htext, Text.getLast?_lines (lf_not_mem_summaryLine _ _)]
  rw [getLast?_summaryLine]
  decide

/-! ### Agreement -/

theorem problemCount_told (reports : List FileReport) :
    ToldReport.problemCount (reports.map told) = problemCount reports := by
  induction reports with
  | nil => rfl
  | cons r reports ih =>
    rw [problemCount, List.foldr_cons, ← problemCount, ← ih]
    simp only [ToldReport.problemCount, List.map_cons, List.flatMap_cons, List.length_append, told,
      List.length_map]

theorem hasProblems_iff (reports : List FileReport) :
    hasProblems reports = true ↔ 0 < problemCount reports := by
  induction reports with
  | nil => decide
  | cons r reports ih =>
    rw [problemCount, List.foldr_cons, ← problemCount, hasProblems, List.any_cons, ← hasProblems,
      Bool.or_eq_true, ih]
    simp [Nat.pos_iff_ne_zero]

/-- **Reports survive printing.** What is printed for programs is one document, and nothing else
stands beside it.

1. It is read as the reports in their order, each with the path as it is displayed, the problems in
   their order, and the text of the failure or null.
2. The summary for people gives the number of these reports and of all problems in them, and no
   other numbers.
3. Problems are said to have been found if and only if the number of problems is positive.
4. A command that ends with these reports prints the form that was asked for and says the same about
   problems, whatever the form. -/
theorem survive_printing (h : ∀ r ∈ reports, r.IsCounted) :
    ∃ document, ToldReport.readAll? (render .json reports) = some document ∧
      document = reports.map told ∧
      (∀ files problems, (Text.lines (render .text reports).toList).getLast? =
          some (summaryLine files problems).toList ↔
        files = document.length ∧ problems = ToldReport.problemCount document) ∧
      (hasProblems reports = true ↔ 0 < ToldReport.problemCount document) ∧
      ∀ (request : LintRequest) (files : List LintedFile),
        files.map LintedFile.report = reports →
          (request.conclude files).output = render request.format reports ∧
            (request.conclude files).hasProblems = hasProblems reports := by
  refine ⟨reports.map told, readAll?_json h, rfl, fun files problems => ?_, ?_, ?_⟩
  · rw [render, getLast?_lines_text, Option.some_inj, String.toList_inj, summaryLine_inj,
      List.length_map, problemCount_told]
    exact and_congr eq_comm eq_comm
  · rw [problemCount_told, hasProblems_iff]
  · rintro request files rfl
    exact ⟨rfl, rfl⟩

/-- A file whose name is no text, with two problems; one that could not be linted; and one that
nothing is said of. -/
def unusual : List FileReport :=
  [⟨⟨[0x22, 0xff, 0x2f, 0x5c]⟩,
      [⟨⟨3, "\"é\" \\ \u0001\n🎉"⟩, ⟨2, 0⟩⟩, ⟨⟨4294967295, ""⟩, ⟨4294967294, 4294967295⟩⟩], none⟩,
    ⟨.ofString "", [], some "protolint\t: exit\r\n"⟩,
    ⟨.ofString "/quiet.proto", [], none⟩]

theorem unusual_survive :
    (∀ r ∈ unusual, r.IsCounted) ∧
    ToldReport.readAll? (render .json unusual) = some (unusual.map told) ∧
    (Text.lines (render .text unusual).toList).getLast? = some (summaryLine 3 2).toList ∧
    hasProblems unusual = true := by
  have hcounted : ∀ r ∈ unusual, r.IsCounted := by
    simp only [unusual, List.forall_mem_cons]
    exact ⟨⟨by decide, by decide⟩, ⟨nofun, nofun⟩, ⟨nofun, nofun⟩, nofun⟩
  obtain ⟨document, hread, rfl, hsummary, hflag, -⟩ := survive_printing hcounted
  exact ⟨hcounted, hread, (hsummary 3 2).mpr ⟨rfl, rfl⟩, hflag.mpr (by decide)⟩

end FileReport

end LintBridge
