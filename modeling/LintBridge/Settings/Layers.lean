import LintBridge.Settings.Basic
import LintBridge.Text.Blank

/-!
# Layers of settings

Settings lie in layers over the defaults: first the global layer, which is kept in a file, then the
client layer, which the editor sends. A value in an upper layer hides those below it, except that
`null` and blank texts hide nothing.

## Main definitions

* `Settings.overlay` — a layer laid over others.
* `Settings.effective` — the settings that two layers give together.
* `Settings.section?` — the client layer in what the editor sends.
-/

namespace LintBridge

namespace Settings

/-- Values that hide nothing. -/
def isUnset : Json → Bool
  | .null => true
  | .str s => Text.isBlankText s
  | _ => false

/-- A layer laid over the fields below it. -/
def overlay (below layer : Fields) : Fields :=
  layer.foldl (fun acc (key, value) => if isUnset value then acc else acc.insert key value) below

/-- The settings that the two layers give together. If any value that is not hidden has the wrong
type, all of them are the defaults. -/
def effective (globalLayer clientLayer : Fields) : Settings :=
  (ofFields? (overlay (overlay default.toFields globalLayer) clientLayer)).getD default

/-- The key under which an editor may send the settings. -/
def sectionKey : String := "protolint"

/-- The client layer in what the editor sends: the object under the section's key if that is
present, the whole object otherwise. -/
def section? (payload : Json) : Option Fields :=
  match payload with
  | .obj fields =>
    match Fields.get? sectionKey fields with
    | some value => value.fields?
    | none => some fields
  | _ => none

end Settings

end LintBridge
