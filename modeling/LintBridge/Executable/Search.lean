import LintBridge.Path.Basic
import LintBridge.Script.Launch

/-!
# Looking an executable up

A bare name is looked up in the directories of the search path, in their order; the first regular
file that can be executed is taken. A name of several components is a path from the current
directory. What is found is given as an absolute path.

## Main definitions

* `Executable.candidates` — the paths that a name can stand for.
* `Executable.find?` — the first of them that can be executed.
-/

namespace LintBridge

namespace Executable

/-- The component that stands for the home directory. -/
def homeMark : Bytes := Utf8.encode "~"

/-- A path with the home directory for its first component, if that is the mark for it. -/
def expandHome (environment : Environment) (p : Path) : Path :=
  match p.components, environment.value? "HOME" with
  | .name n :: rest, some home =>
    if n = homeMark then rest.foldl (fun q c => q.join ⟨c.bytes⟩) ⟨home⟩ else p
  | _, _ => p

/-- A path as it is given when it is found: relative ones are taken from `cwd`, without dots. -/
def located (cwd p : Path) : Path :=
  if p.isAbsolute then p
  else
    ((p.components.dropWhile (· = .here)).map Component.bytes).foldl (fun q n => q.join ⟨n⟩) cwd

/-- The paths that a name can stand for, as they are tried. -/
def candidates (environment : Environment) (cwd : Path) (name : String) : List Path :=
  let p := Path.ofString name
  if 1 < p.depth then [located cwd p]
  else
    (Program.directories environment.searchPath).map fun d =>
      (expandHome environment ⟨d⟩).join p

/-- The first file that a name can stand for and that can be executed. -/
def find? (environment : Environment) (t : Files) (cwd : Place) (name : String) : Option Path :=
  let here := Files.pathOf cwd
  ((candidates environment here name).find? fun p => t.isExecutable cwd p).map (located here)

end Executable

end LintBridge
