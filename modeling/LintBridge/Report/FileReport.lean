import LintBridge.Json.Printer
import LintBridge.Path.Basic
import LintBridge.Report.LineTable

/-!
# Reports on files

What linting several files from the command line has found, for people to read and for programs.

## Main definitions

* `FileReport` — what linting one file has found.
* `FileReport.hasProblems` — whether anything was found in a list of files.
* `FileReport.text`, `FileReport.json` — the two forms of a list of reports.
-/

namespace LintBridge

/-- The form in which reports are printed. -/
inductive OutputFormat where
  | text
  | json
  deriving DecidableEq, Repr

/-- What linting one file has found. -/
structure FileReport where
  /-- The file, as it was named. -/
  path : Path
  /-- The problems that lie on its lines. -/
  findings : List Finding
  /-- Why the file could not be linted. -/
  failure : Option String
  deriving DecidableEq, Repr

namespace FileReport

/-- Whether any problem was found. -/
def hasProblems (reports : List FileReport) : Bool :=
  reports.any fun r => !r.findings.isEmpty

/-- How many problems were found. -/
def problemCount (reports : List FileReport) : Nat :=
  reports.foldr (fun r n => r.findings.length + n) 0

/-- The lines that tell of one file; none if there is nothing to tell. -/
def textBlock (r : FileReport) : String :=
  if r.findings.isEmpty ∧ r.failure.isNone then ""
  else
    let failure := match r.failure with
      | some message => "  error: " ++ message ++ "\n"
      | none => ""
    let problems := r.findings.map fun f =>
      "  " ++ toString f.record.line ++ ": warning: " ++ f.record.reason ++ "\n"
    "\n" ++ r.path.display ++ ":\n" ++ failure ++ String.join problems

/-- The form for people: the files that there is something to tell of, and a summary. -/
def text (reports : List FileReport) : String :=
  String.join (reports.map textBlock)
    ++ "\nChecked " ++ toString reports.length ++ " files, found "
    ++ toString (problemCount reports) ++ " problems\n"

/-- A problem, for programs. -/
def findingJson (f : Finding) : Json :=
  .ofFields [("endCharacter", .ofNat f.span.endCharacter), ("line", .ofNat f.record.line),
    ("message", .str f.record.reason)]

/-- A report, for programs. -/
def toJson (r : FileReport) : Json :=
  .ofFields [("diagnostics", .arr (r.findings.map findingJson)), ("error", .ofText? r.failure),
    ("path", .str r.path.display)]

/-- The form for programs. -/
def json (reports : List FileReport) : String :=
  (Json.arr (reports.map toJson)).pretty ++ "\n"

/-- The reports in the given form. -/
def render (format : OutputFormat) (reports : List FileReport) : String :=
  match format with
  | .text => text reports
  | .json => json reports

end FileReport

end LintBridge
