import LintBridge.Files.Error
import LintBridge.Script.Run

/-!
# Launching programs

A program is launched with arguments, a directory and an environment. It reads nothing; what it
writes on its two outputs is collected. It ends with a status or by a signal, unless the machine
stops before.

## Main definitions

* `Ending` — how a program has ended.
* `Launch` — a program with everything that it is given.
* `Launch.program` — the program that is started.
* `Launch.run` — runs it.
-/

namespace LintBridge

/-- How a program has ended. -/
inductive Ending where
  | exited (status : Nat)
  | killed (signal : Nat)
  deriving DecidableEq, Repr

namespace Ending

/-- Whether the program has done its work. -/
def isSuccess (e : Ending) : Bool := e = .exited 0

/-- The names of the signals, by number, from 1 on. -/
def signalNames : Array String := #["HUP", "INT", "QUIT", "ILL", "TRAP", "ABRT", "BUS", "FPE",
  "KILL", "USR1", "SEGV", "USR2", "PIPE", "ALRM", "TERM", "STKFLT", "CHLD", "CONT", "STOP", "TSTP",
  "TTIN", "TTOU", "URG", "XCPU", "XFSZ", "VTALRM", "PROF", "WINCH", "IO", "PWR", "SYS"]

/-- How the end of a program is told. -/
def text : Ending → String
  | .exited status => "exit status: " ++ toString status
  | .killed signal =>
    "signal: " ++ toString signal ++
      (match signalNames[signal - 1]? with
        | some name => " (SIG" ++ name ++ ")"
        | none => "")

end Ending

/-- What a program sees of the variables of those that start it. -/
abbrev Environment := List (Bytes × Bytes)

namespace Environment

/-- Where programs are looked for if the environment does not say it. -/
def defaultSearchPath : Bytes := Utf8.encode "/bin:/usr/bin"

/-- The value of a variable. -/
def value? (e : Environment) (name : String) : Option Bytes := e.lookup (Utf8.encode name)

/-- Where programs are looked for. -/
def searchPath (e : Environment) : Bytes := (e.value? "PATH").getD defaultSearchPath

end Environment

/-- A program with everything that it is given. -/
structure Launch where
  /-- The path of the program, or a name that is looked up. -/
  command : Bytes
  arguments : List Bytes
  /-- The directory in which it starts, if not in that of the one who starts it. -/
  directory : Option Path
  environment : Environment
  deriving Repr

/-- What is left of a program. -/
structure Finished where
  /-- None if the machine has stopped before the program ended. -/
  ending : Option Ending
  output : Bytes
  errors : Bytes
  deriving DecidableEq, Repr

namespace Launch

/-- The directory in which the program starts. -/
def place (l : Launch) (t : Files) (cwd : Place) : Except Errno Place :=
  match l.directory with
  | none => .ok cwd
  | some d =>
    match t.find cwd d true with
    | .error e => .error e
    | .ok place =>
      match t.node? place with
      | some .directory => .ok place
      | some _ => .error .notDirectory
      | none => .error .noEntry

/-- Whether a file that names no interpreter is given to the shell: this is so when the path is
relative, has a slash, and a directory is given. -/
def trusts (l : Launch) : Bool :=
  l.directory.isSome && l.command.contains Path.slash && l.command.head? ≠ some Path.slash

/-- The program that is started. -/
def program (l : Launch) (t : Files) (place : Place) : Except Errno Program :=
  match Program.find t place l.environment.searchPath l.command with
  | .ok (_, p) => .ok p
  | .error e =>
    if e = .notExecutable ∧ l.trusts then .ok ⟨"sh", [l.command]⟩ else .error e

/-- Whether a zero byte is in anything that the program is given. Such a program is not started. -/
def hasZero (l : Launch) : Bool :=
  l.command.contains 0 || l.arguments.any (·.contains 0) || l.directory.any Path.hasZero ||
    l.environment.any fun (name, value) => name.contains 0 || value.contains 0

/-- How long a script can go on. -/
def patience : Nat := 1000000000

/-- The shell from which a program is launched. -/
def shell (l : Launch) (place : Place) (m : Machine) (output errors : Nat) : Script.Shell where
  machine := m
  bindings := l.environment
  exported := l.environment.map Prod.fst
  functions := []
  name := l.command
  parameters := []
  script := []
  line := 0
  descriptors := [(0, .sink), (1, .output output), (2, .output errors)]
  cwd := place
  process := 0
  status := 0
  signal := none
  modes := .usual
  isTested := false
  frozen := []
  traps := []
  pending := []
  saved := none
  children := []
  flow := .next

/-- Runs a program that has been found, in a directory. -/
def runProgram (l : Launch) (program : Program) (place : Place) (m : Machine) :
    Machine × Except FileError Finished :=
  let (m, output) := m.newOutput
  let (m, errors) := m.newOutput
  let child := l.shell place m output errors
  let s := Script.Shell.start patience program l.command l.arguments child
  let m := s.machine
  let ending : Ending := match s.signal with
    | some n => .killed n
    | none => .exited s.status
  let ending := if m.isOver then none else some ending
  (m, .ok ⟨ending, m.written output, m.written errors⟩)

/-- Runs the program, or tells why it cannot be started. -/
def run (l : Launch) (cwd : Place) (m : Machine) : Machine × Except FileError Finished :=
  if l.hasZero then (m, .error .zeroInData)
  else
    match l.place m.files cwd with
    | .error e => (m, .error (.system e))
    | .ok place =>
      match l.program m.files place with
      | .error e => (m, .error (.system e))
      | .ok program => l.runProgram program place m

end Launch

end LintBridge
