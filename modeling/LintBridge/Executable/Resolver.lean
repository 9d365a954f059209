import LintBridge.Executable.Configured
import LintBridge.Executable.Search

/-!
# Finding out which executable to use

An executable is valid if it runs successfully when it is asked for its version. The last one that
was found to be valid is remembered; one that was found not to be valid makes the memory go.

## Main definitions

* `Executable.probePath` — the path that a setting makes the bridge try.
* `Executable.isValid` — tries a path.
* `Executable.validate` — tries a path and remembers it.
* `Executable.available` — tries what is configured.
-/

namespace LintBridge

namespace Executable

/-- What an executable is asked for. -/
def versionArgument : Bytes := Utf8.encode "version"

/-- The program that is started to try a path. -/
def versionLaunch (environment : Environment) (path : String) : Launch where
  command := Utf8.encode path
  arguments := [versionArgument]
  directory := none
  environment := environment

/-- The path that a setting makes the bridge try, if the default name was found at `found`. -/
def probePath (found : Option Path) (setting : Option String) (root : Option Path) : String :=
  let path := configuredPath setting root
  match found with
  | some file => if path = defaultName then file.display else path
  | none => path

/-- Where the default name is found on the search path. -/
def findDefault? (environment : Environment) (t : Files) (cwd : Place) : Option Path :=
  find? environment t cwd defaultName

/-- Whether a path names an executable that runs successfully. -/
def isValid (environment : Environment) (cwd : Place) (m : Machine) (path : String) :
    Machine × Bool :=
  if path = "" then (m, false)
  else
    match (versionLaunch environment path).run cwd m with
    | (m, .ok f) => (m, (f.ending.map Ending.isSuccess).getD false)
    | (m, .error _) => (m, false)

/-- What is remembered after a path was tried, and is also the answer. -/
def remembered (path : String) (isValid : Bool) : Option String :=
  if isValid then some path else none

/-- Tries a path. The answer is also what is remembered. -/
def validate (environment : Environment) (cwd : Place) (m : Machine) (path : String) :
    Machine × Option String :=
  let (m, isValid) := isValid environment cwd m path
  (m, remembered path isValid)

/-- Tries what is configured. The answer is also what is remembered. -/
def available (environment : Environment) (cwd : Place) (m : Machine) (setting : Option String)
    (root : Option Path) : Machine × Option String :=
  validate environment cwd m (probePath (findDefault? environment m.files cwd) setting root)

end Executable

end LintBridge
