import LintBridge.Files.Errno
import LintBridge.Path.Basic

/-!
# Errors in the use of files

## Main definitions

* `FileError` — why a file could not be used.
* `FileError.ofPath` — why a file could not be used to which a path name leads.
* `FileError.message` — how that is reported.
-/

namespace LintBridge

/-- Why a file could not be used. -/
inductive FileError where
  /-- The operating system refused. -/
  | system (e : Errno)
  /-- The name of the file has a zero byte, and the system was not asked. -/
  | zeroInName
  /-- A zero byte is in what a program is given, and the system was not asked. -/
  | zeroInData
  /-- The address of a channel lies in no directory. -/
  | noParent
  /-- What stands at the address of a channel is no pipe. -/
  | notPipe
  /-- The bytes of the file are no text. -/
  | notText
  deriving DecidableEq, Repr

namespace FileError

/-- Why a file could not be used to which a path name leads. -/
def ofPath (p : Path) (e : Errno) : FileError := if p.hasZero then .zeroInName else .system e

/-- How the error is reported. -/
def message : FileError → String
  | .system e => e.message
  | .zeroInName => "file name contained an unexpected NUL byte"
  | .zeroInData => "nul byte found in provided data"
  | .noParent => "address has no parent"
  | .notPipe => "not a pipe"
  | .notText => "stream did not contain valid UTF-8"

end FileError

end LintBridge
