import LintBridge.Files.Tree
import LintBridge.Script.Command

/-!
# Starting a program

A program is named by a path, or by a bare name that is looked up in the directories of the search
path. A file is a program if it may be executed and names its interpreter on its first line; the
interpreter may be such a file again.

## Main definitions

* `Program` — a program of the system, with the arguments that stand before all others.
* `Program.load` — the program that a file is.
* `Program.find` — the program that a name stands for.
-/

namespace LintBridge

/-- A program of the system, with the arguments that stand before all others. -/
structure Program where
  name : String
  arguments : List Bytes
  deriving DecidableEq, Repr

namespace Program

/-- How many interpreters may stand behind each other. -/
def interpreterLimit : Nat := 5

/-- How much of the first line counts. -/
def headLimit : Nat := 255

/-- Blanks in the first line. -/
def isBlankByte (b : UInt8) : Bool := b = 32 || b = 9

/-- The interpreter on the first line of a file, and its argument. -/
def interpreter? (content : Bytes) : Option (Bytes × Option Bytes) :=
  match content with
  | 35 :: 33 :: rest =>
    let line := ((rest.take headLimit).takeWhile (· ≠ 10)).dropWhile isBlankByte
    let path := line.takeWhile (!isBlankByte ·)
    let argument := (((line.dropWhile (!isBlankByte ·)).dropWhile isBlankByte).reverse.dropWhile
      isBlankByte).reverse
    if path = [] then none else some (path, if argument = [] then none else some argument)
  | _ => none

/-- The program that the file at a path is. -/
def loadUpTo (t : Files) (cwd : Place) : (interpreters : Nat) → Bytes → Except Errno Program
  | interpreters, path =>
    match t.stat cwd ⟨path⟩ with
    | .error e => .error e
    | .ok (.program name) => .ok ⟨name, []⟩
    | .ok (.file content isExecutable) =>
      if !isExecutable then .error .denied
      else
        match interpreter? content, interpreters with
        | none, _ => .error .notExecutable
        | some _, 0 => .error .tooManyLinks
        | some (interpreter, argument), n + 1 =>
          (loadUpTo t cwd n interpreter).map fun p =>
            { p with arguments := p.arguments ++ argument.toList ++ [path] }
    | .ok _ => .error .denied

/-- The program that the file at a path is. -/
def load (t : Files) (cwd : Place) (path : Bytes) : Except Errno Program :=
  loadUpTo t cwd interpreterLimit path

/-- The directories of a search path; an empty one is the current directory. -/
def directories (searchPath : Bytes) : List Bytes := Text.splitAll 58 searchPath

/-- The path of a name in a directory of the search path. -/
def inDirectory (directory name : Bytes) : Bytes :=
  if directory = [] then name else directory ++ Path.slash :: name

/-- Tries the files of a name in some directories. Files that are missing are passed over; one that
may not be executed is remembered. -/
def search (t : Files) (cwd : Place) (name : Bytes) (failure : Errno) :
    List Bytes → Except Errno (Bytes × Program)
  | [] => .error failure
  | d :: ds =>
    let path := inDirectory d name
    match load t cwd path with
    | .ok p => .ok (path, p)
    | .error e =>
      if e = .noEntry ∨ e = .notDirectory then search t cwd name failure ds
      else if e = .denied then search t cwd name .denied ds
      else .error e

/-- The program that a name stands for, and its path. A name with a slash is a path itself. -/
def find (t : Files) (cwd : Place) (searchPath name : Bytes) : Except Errno (Bytes × Program) :=
  if name = [] then .error .noEntry
  else if name.contains Path.slash then (load t cwd name).map fun p => (name, p)
  else if Files.nameLimit < name.length then .error .nameTooLong
  else search t cwd name .noEntry (directories searchPath)

end Program

end LintBridge
