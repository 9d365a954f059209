import LintBridge.Report.LineTable

/-!
# The outcome of a run

A finished run of the linter is judged by its exit status and by what it wrote to its error output.
Records win: whatever the status, a run that reports a problem has found problems. Without any, a
successful exit means that the document is clean, and a failing one that the linter could not do its
work.

## Main definitions

* `Outcome` — clean, problems, or one of two failures.
* `Outcome.classify` — the outcome of a finished run.
* `Outcome.records` — what was reported.
-/

namespace LintBridge

/-- What came of one run of the linter. -/
inductive Outcome where
  /-- The linter ran and reported nothing. -/
  | clean
  /-- The linter reported problems. -/
  | problems (records : List Record)
  /-- The linter could not be started, took too long, or failed without reporting a problem. -/
  | toolFailure (message : String)
  /-- The buffer could not be handed over. -/
  | transportFailure (message : String)
  deriving DecidableEq, Repr

namespace Outcome

/-- What the linter reported; nothing unless it found problems. -/
def records : Outcome → List Record
  | .problems rs => rs
  | _ => []

/-- Whether the document could not be linted. -/
def isFailure : Outcome → Bool
  | .toolFailure _ => true
  | .transportFailure _ => true
  | _ => false

/-- The message of a failure. -/
def message? : Outcome → Option String
  | .toolFailure m => some m
  | .transportFailure m => some m
  | _ => none

/-- What is said of a run that ended with `status` and reported nothing but `detail`. -/
def failureMessage (status detail : String) : String :=
  if detail = "" then "protolint exited with " ++ status
  else "protolint exited with " ++ status ++ ": " ++ detail

/-- The outcome of a run that ended with `status`, successfully or not, and wrote `stderr`. -/
def classify (success : Bool) (status stderr : String) : Outcome :=
  match Record.readAll stderr.toList with
  | r :: rs => .problems (r :: rs)
  | [] => if success then .clean else .toolFailure (failureMessage status (Text.trim stderr))

/-- What the linter reported, placed on the lines of `text`. -/
def findings (o : Outcome) (text : String) : List Finding :=
  (LineTable.ofText text.toList).resolve o.records

end Outcome

end LintBridge
