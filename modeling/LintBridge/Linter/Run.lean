import LintBridge.Channel.Address
import LintBridge.Linter.Arguments
import LintBridge.Linter.Failure
import LintBridge.Linter.Target
import LintBridge.Script.Launch
import LintBridge.Workspace.Root

/-!
# Runs of the linter

A run gives a document to the linter, as a file or through a channel, and judges what comes back.
The linter works in the directory of the document if there is one, or else in the workspace root. A
channel lives as long as the run and leaves nothing behind.

## Main definitions

* `LintJob` — the linter and how it is to be used.
* `Linter.tryLint` — a run, with the failure that kept the linter from its work.
* `Linter.lint` — a run, with failures folded into the outcome.
-/

namespace LintBridge

/-- The linter and how it is to be used. -/
structure LintJob where
  executable : String
  folders : List Path
  /-- Whether the workspace root is named to the linter. -/
  passConfigDir : Bool
  /-- How long a run may take. -/
  limit : Option Duration
  deriving DecidableEq, Repr

namespace Linter

/-- The directory of a document, if it is one. -/
def parentDirectory? (t : Files) (cwd : Place) (target : LintTarget) : Option Path :=
  (target.path.bind Path.parent?).filter fun d => t.isDirectory cwd d

/-- The base name of a document. -/
def baseName (target : LintTarget) : String :=
  match target.path.bind Path.fileName? with
  | some name => Utf8.lossy name
  | none => Channel.untitled

/-- The program that a run starts, with everything that it is given. -/
def launch (job : LintJob) (environment : Environment) (t : Files) (cwd : Place)
    (target : LintTarget) (input : Path) : Launch :=
  let root := Workspace.root? target.path job.folders
  { command := Utf8.encode job.executable
    arguments := arguments job.passConfigDir root input
    directory := (parentDirectory? t cwd target).orElse fun _ => root
    environment := environment }

/-- What is left of the linter, judged. One that would never end has to be killed. -/
def judge (job : LintJob) (f : Finished) : Except LintFailure Outcome :=
  let detail := Utf8.lossy f.errors
  match f.ending, job.limit with
  | some e, _ => .ok (Outcome.classify e.isSuccess e.text detail)
  | none, some limit => .error (.timeout job.executable limit)
  | none, none => .ok (Outcome.classify false (Ending.killed 9).text detail)

/-- Runs the linter on an input, for no longer than it may take. -/
def runOn (job : LintJob) (environment : Environment) (cwd : Place) (m : Machine)
    (target : LintTarget) (input : Path) : Machine × Except LintFailure Outcome :=
  let l := launch job environment m.files cwd target input
  let limited := { m with deadline := job.limit.map fun d => m.clock + d.nanoseconds / 1000 }
  let (after, result) := l.run cwd limited
  let after := { after with deadline := m.deadline, isStuck := m.isStuck }
  match result with
  | .error e => (after, .error (.spawn job.executable e))
  | .ok f => (after, judge job f)

/-- Why a channel could not be made. -/
def bindFailure (address : Path) (e : FileError) : LintFailure :=
  .channel ("failed to bind " ++ address.display ++ ": " ++ e.message)

/-- Why a channel could not be served. -/
def serveFailure (address : Path) (e : FileError) : LintFailure :=
  .channel ("failed to serve buffer through " ++ address.display ++ ": " ++ e.message)

/-- The address of the next channel. -/
def nextAddress (m : Machine) (target : LintTarget) : Path :=
  Channel.address Files.temporary (m.clock * 1000) m.nextChannel target.version (baseName target)

/-- Runs the linter on the buffer of a document. -/
def lintBuffer (job : LintJob) (environment : Environment) (cwd : Place) (m : Machine)
    (target : LintTarget) : Machine × Except LintFailure Outcome :=
  let address := nextAddress m target
  let m := { m with nextChannel := m.nextChannel + 1 }
  match Channel.bind m.files cwd address with
  | (t, .error e) => ({ m with files := t }, .error (bindFailure address e))
  | (t, .ok ()) =>
    let server : PipeServer := ⟨address, cwd, Utf8.encode target.text, m.clock, none⟩
    let (after, result) :=
      runOn job environment cwd { m with files := t, server := some server } target address
    let failure := after.server.bind PipeServer.failure
    let after := { after with
      files := Channel.remove after.files cwd address
      server := m.server }
    match result, failure with
    | .error e, _ => (after, .error e)
    | .ok _, some e => (after, .error (serveFailure address e))
    | .ok outcome, none => (after, .ok outcome)

/-- How a document reaches the linter. -/
def modeOf (m : Machine) (cwd : Place) (target : LintTarget) : LintMode :=
  target.mode fun p => m.files.isFile cwd p

/-- A run of the linter on a document, with the failure that kept the linter from its work. -/
def tryLint (job : LintJob) (environment : Environment) (cwd : Place) (m : Machine)
    (target : LintTarget) : Machine × Except LintFailure Outcome :=
  match modeOf m cwd target, target.path with
  | .file, some path =>
    runOn job environment cwd m target ((Files.pathOf cwd).absolute path)
  | _, _ => lintBuffer job environment cwd m target

/-- A run of the linter on a document. -/
def lint (job : LintJob) (environment : Environment) (cwd : Place) (m : Machine)
    (target : LintTarget) : Machine × Outcome :=
  match tryLint job environment cwd m target with
  | (m, .ok outcome) => (m, outcome)
  | (m, .error e) => (m, e.outcome)

end Linter

end LintBridge
