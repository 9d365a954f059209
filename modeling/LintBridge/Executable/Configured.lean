import LintBridge.Path.Basic
import LintBridge.Text.Blank

/-!
# The configured executable

## Main definitions

* `Executable.defaultName` — what is looked up when nothing is configured.
* `Executable.configuredPath` — what a setting asks to be run.
-/

namespace LintBridge

namespace Executable

/-- The name that is looked up when nothing is configured. -/
def defaultName : String := "protolint"

/-- Where the linter can be obtained. -/
def homepage : String := "https://github.com/yoheimuta/protolint"

/-- What a setting asks to be run. Blanks around the setting do not count; a blank setting stands
for the default name, and a relative path is taken from the workspace root if there is one. -/
def configuredPath (setting : Option String) (root : Option Path) : String :=
  let setting := Text.trim (setting.getD "")
  if setting = "" ∨ setting = defaultName then defaultName
  else
    match root with
    | some dir =>
      let path := Path.ofString setting
      if path.isRelative then (dir.join path).display else setting
    | none => setting

end Executable

end LintBridge
