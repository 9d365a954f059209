import LintBridge.Decimal.Duration
import LintBridge.Files.Error
import LintBridge.Report.Outcome

/-!
# Failures to lint

## Main definitions

* `LintFailure` — what kept the linter from doing its work.
* `LintFailure.message` — how that is told.
* `LintFailure.outcome` — the outcome of a run that failed.
-/

namespace LintBridge

/-- What kept the linter from doing its work. -/
inductive LintFailure where
  /-- The settings cannot be used. -/
  | config (detail : String)
  /-- The program could not be started. -/
  | spawn (program : String) (cause : FileError)
  /-- The buffer could not be handed over. -/
  | channel (detail : String)
  /-- The program took longer than it may. -/
  | timeout (program : String) (limit : Duration)
  /-- A file could not be used. -/
  | io (cause : FileError)
  deriving DecidableEq, Repr

namespace LintFailure

/-- How the failure is told. -/
def message : LintFailure → String
  | .config detail => "Configuration error: " ++ detail
  | .spawn program cause => "Failed to start `" ++ program ++ "`: " ++ cause.message
  | .channel detail => "Channel error: " ++ detail
  | .timeout program limit => "`" ++ program ++ "` did not finish within " ++ limit.text
  | .io cause => "I/O error: " ++ cause.message

/-- A channel that failed is a failure of the transport; all else is a failure of the tool. -/
def outcome (f : LintFailure) : Outcome :=
  match f with
  | .channel _ => .transportFailure f.message
  | _ => .toolFailure f.message

end LintFailure

end LintBridge
