import LintBridge.Path.Basic

/-!
# How the linter is called

## Main definitions

* `Linter.arguments` — the arguments for linting one file.
-/

namespace LintBridge

namespace Linter

/-- The flag that names the directory of the linter's configuration. -/
def configDirFlag : Bytes := Utf8.encode "-config_dir_path="

/-- The arguments for linting `input`. The workspace root is passed only if it is asked for and
there is one. -/
def arguments (passConfigDir : Bool) (root : Option Path) (input : Path) : List Bytes :=
  let flag := match passConfigDir, root with
    | true, some dir => [configDirFlag ++ dir.bytes]
    | _, _ => []
  Utf8.encode "lint" :: flag ++ [input.bytes]

end Linter

end LintBridge
