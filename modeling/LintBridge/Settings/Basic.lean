import LintBridge.Decimal.Duration
import LintBridge.Json.Basic

/-!
# Settings

## Main definitions

* `Settings` — what can be set.
* `Settings.ofFields?` — the settings that the fields of an object give.
* `Settings.toFields` — the settings as fields.
-/

namespace LintBridge

/-- What can be set. -/
structure Settings where
  /-- The executable of the linter; a relative path is taken from the first workspace folder. -/
  path : Option String
  /-- Whether buffers are linted while they are edited. -/
  lintOnChange : Bool
  /-- How long one run may take, in milliseconds; zero for no limit. -/
  timeoutMs : Nat
  /-- Whether the linter is told the workspace root. -/
  passConfigDir : Bool
  deriving DecidableEq, Repr

namespace Settings

/-- The limit of a run when none is set. -/
def defaultTimeoutMs : Nat := 30000

/-- The settings when nothing is set. -/
def default : Settings := ⟨none, false, defaultTimeoutMs, false⟩

/-- The key of the executable. -/
def pathKey : String := "path"

/-- The key of the switch for linting while editing. -/
def lintOnChangeKey : String := "lintOnChange"

/-- The key of the limit. -/
def timeoutKey : String := "timeoutMs"

/-- The key of the switch for telling the workspace root. -/
def passConfigDirKey : String := "passConfigDir"

/-- The limit of a run, if there is one. -/
def timeout (s : Settings) : Option Duration :=
  if s.timeoutMs = 0 then none else some (.ofMilliseconds s.timeoutMs)

/-- A text that may be absent. -/
def optionalText? : Option Json → Option (Option String)
  | none => some none
  | some .null => some none
  | some (.str s) => some (some s)
  | some _ => none

/-- A switch. -/
def switch? (fallback : Bool) : Option Json → Option Bool
  | none => some fallback
  | some (.bool b) => some b
  | some _ => none

/-- A count of 64 bits. A number with a fraction or an exponent is none, whatever its value. -/
def count? (fallback : Nat) : Option Json → Option Nat
  | none => some fallback
  | some (.int (.ofNat n)) => some n
  | some _ => none

/-- The settings that some fields give, or `none` if one of them has a value of the wrong type.
Fields with other keys do not matter. -/
def ofFields? (fields : Fields) : Option Settings := do
  let path ← optionalText? (fields.get? pathKey)
  let lintOnChange ← switch? false (fields.get? lintOnChangeKey)
  let timeoutMs ← count? defaultTimeoutMs (fields.get? timeoutKey)
  let passConfigDir ← switch? false (fields.get? passConfigDirKey)
  some ⟨path, lintOnChange, timeoutMs, passConfigDir⟩

/-- The settings as fields; an absent path has none. -/
def toFields (s : Settings) : Fields :=
  let path := match s.path with
    | some p => [(pathKey, Json.str p)]
    | none => []
  Fields.ofList (path ++ [(lintOnChangeKey, .bool s.lintOnChange),
    (timeoutKey, .ofNat s.timeoutMs), (passConfigDirKey, .bool s.passConfigDir)])

end Settings

end LintBridge
