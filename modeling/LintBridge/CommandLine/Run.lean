import LintBridge.CommandLine.Request
import LintBridge.Executable.Resolver
import LintBridge.Linter.Run
import LintBridge.Settings.Store

/-!
# What the commands do

The command that lints files stops before it prints anything if there is no executable or if a file
cannot be read. If the linter itself fails on a file, the reports are printed, but the command fails
in the end.

## Main definitions

* `CommandFailure` — why a command has failed.
* `CommandResult` — what a command prints, and how it ends.
* `LintRequest.run` — lints files.
* `Command.runCheck` — checks that there is an executable.
-/

namespace LintBridge

/-- Why a command has failed. -/
inductive CommandFailure where
  /-- There is no executable; what was tried. -/
  | notDetected (tried : String)
  /-- A file cannot be read. -/
  | unreadable (path : Path) (cause : FileError)
  /-- The linter failed on some of the files. -/
  | linterFailed (failed total : Nat)
  deriving DecidableEq, Repr

namespace CommandFailure

/-- How a failure is told. -/
def message : CommandFailure → String
  | notDetected tried => "protolint executable was not detected (tried `" ++ tried ++ "`)"
  | unreadable path _ => "Failed to read " ++ path.display
  | linterFailed failed total =>
    "protolint failed on " ++ toString failed ++ " of " ++ toString total ++ " files"

/-- What has led to a failure. -/
def cause? : CommandFailure → Option String
  | unreadable _ cause => some cause.message
  | _ => none

/-- What can be done about a failure. -/
def help? : CommandFailure → Option String
  | notDetected _ =>
    some ("install protolint from " ++ Executable.homepage ++ " or pass --executable")
  | _ => none

end CommandFailure

/-- What a command prints, and how it ends. -/
structure CommandResult where
  output : String
  hasProblems : Bool
  failure : Option CommandFailure
  deriving DecidableEq, Repr

namespace CommandResult

/-- A command that has failed before it printed anything. -/
def failed (f : CommandFailure) : CommandResult := ⟨"", false, some f⟩

/-- The status with which the program ends. -/
def status (r : CommandResult) : Nat :=
  if r.failure.isSome then 2 else if r.hasProblems then 1 else 0

end CommandResult

/-- A file that was linted. -/
structure LintedFile where
  path : Path
  text : String
  outcome : Outcome
  deriving DecidableEq, Repr

/-- What is reported of a file that was linted. -/
def LintedFile.report (f : LintedFile) : FileReport :=
  ⟨f.path, f.outcome.findings f.text, f.outcome.message?⟩

namespace Command

/-- Looks for the executable: what was asked for explicitly or else the one in the settings, taken
from the current directory. -/
def findExecutable (environment : Environment) (cwd : Place) (store : SettingsStore) (m : Machine)
    (explicit : Option String) : Machine × Except CommandFailure String :=
  let configured := explicit.orElse fun _ => store.current.path
  let (m, found) := Executable.available environment cwd m configured (some (Files.pathOf cwd))
  match found with
  | some path => (m, .ok path)
  | none => (m, .error (.notDetected (configured.getD Executable.defaultName)))

/-- Checks that there is an executable. -/
def runCheck (environment : Environment) (cwd : Place) (store : SettingsStore) (m : Machine)
    (explicit : Option String) : Machine × CommandResult :=
  match findExecutable environment cwd store m explicit with
  | (m, .ok path) => (m, ⟨"protolint found: " ++ path ++ "\n", false, none⟩)
  | (m, .error f) => (m, .failed f)

end Command

namespace LintRequest

/-- How the linter is used for a request. -/
def job (r : LintRequest) (cwd : Place) (executable : String) : LintJob where
  executable := executable
  folders := [Files.pathOf cwd]
  passConfigDir := r.passConfigDir
  limit := if r.timeoutMs = 0 then none else some (.ofMilliseconds r.timeoutMs)

/-- The text of a file. -/
def readText (t : Files) (cwd : Place) (path : Path) : Except FileError String :=
  match t.read cwd path with
  | .error e => .error (.system e)
  | .ok bytes =>
    match Utf8.decode? bytes with
    | some text => .ok text
    | none => .error .notText

/-- What a run is made for: a file with its text, or its text alone. -/
def target (r : LintRequest) (path : Path) (text : String) : LintTarget :=
  if r.usesBuffer then .unsaved path text else .saved path text

/-- Lints files one after another. -/
def lintAll (r : LintRequest) (job : LintJob) (environment : Environment) (cwd : Place)
    (m : Machine) : List Path → Machine × Except CommandFailure (List LintedFile)
  | [] => (m, .ok [])
  | path :: paths =>
    match readText m.files cwd path with
    | .error e => (m, .error (.unreadable path e))
    | .ok text =>
      let (m, outcome) := Linter.lint job environment cwd m (r.target path text)
      match r.lintAll job environment cwd m paths with
      | (m, .ok files) => (m, .ok (⟨path, text, outcome⟩ :: files))
      | (m, .error f) => (m, .error f)

/-- What is printed on files that were linted, and how the command ends. -/
def conclude (r : LintRequest) (files : List LintedFile) : CommandResult :=
  let reports := files.map LintedFile.report
  let failed := (files.filter fun f => f.outcome.isFailure).length
  ⟨FileReport.render r.format reports, FileReport.hasProblems reports,
    if failed = 0 then none else some (.linterFailed failed files.length)⟩

/-- Lints files. -/
def run (r : LintRequest) (environment : Environment) (cwd : Place) (store : SettingsStore)
    (m : Machine) : Machine × CommandResult :=
  match Command.findExecutable environment cwd store m r.executable with
  | (m, .error f) => (m, .failed f)
  | (m, .ok executable) =>
    match r.lintAll (r.job cwd executable) environment cwd m r.files with
    | (m, .error f) => (m, .failed f)
    | (m, .ok files) => (m, r.conclude files)

end LintRequest

end LintBridge
