import LintBridge.Files.Error
import LintBridge.Files.Tree

/-!
# The life of a channel

A channel stands in a directory of its own, its scope, which is made with it and removed with it.

## Main definitions

* `Channel.bind` — makes the scope and the pipe.
* `Channel.remove` — removes both.
* `Channel.check` — what the server finds when it looks at the address.
-/

namespace LintBridge

namespace Channel

/-- Makes the scope and the pipe. If the pipe cannot be made, the scope goes again. -/
def bind (t : Files) (cwd : Place) (address : Path) : Files × Except FileError Unit :=
  match address.parent? with
  | none => (t, .error .noParent)
  | some scope =>
    match t.makeDirectory cwd scope with
    | .error e => (t, .error (.ofPath scope e))
    | .ok made =>
      match made.makePipe cwd address with
      | .ok piped => (piped, .ok ())
      | .error e =>
        match made.removeDirectory cwd scope with
        | .ok t => (t, .error (.system e))
        | .error _ => (made, .error (.system e))

/-- The tree after the file at an address was removed; a missing file does not matter. -/
def removeFileIfPresent (t : Files) (cwd : Place) (p : Path) : Except Errno Files :=
  match t.removeFile cwd p with
  | .ok t => .ok t
  | .error e => if e = .noEntry then .ok t else .error e

/-- The tree after an empty directory was removed; a missing one does not matter. -/
def removeDirectoryIfPresent (t : Files) (cwd : Place) (p : Path) : Except Errno Files :=
  match t.removeDirectory cwd p with
  | .ok t => .ok t
  | .error e => if e = .noEntry then .ok t else .error e

/-- Removes the pipe, or what has taken its place, and then the scope if that is empty. -/
def remove (t : Files) (cwd : Place) (address : Path) : Files :=
  match removeFileIfPresent t cwd address with
  | .error _ => t
  | .ok t =>
    match address.parent? with
    | none => t
    | some scope =>
      match removeDirectoryIfPresent t cwd scope with
      | .ok t => t
      | .error _ => t

/-- What the server finds when it looks at the address: an error if there is no pipe. -/
def check (t : Files) (cwd : Place) (address : Path) : Except FileError Unit :=
  match t.stat cwd address with
  | .ok .pipe => .ok ()
  | .ok .directory => .error (.system .isDirectory)
  | .ok _ => .error .notPipe
  | .error e => .error (.system e)

end Channel

end LintBridge
