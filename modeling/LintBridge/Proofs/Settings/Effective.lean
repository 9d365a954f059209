import LintBridge.Proofs.Json.Fields
import LintBridge.Settings.Store

/-!
# The value in force of a key

Layers are laid over each other key by key: what is in force for a key is what the client layer
sets, or else the global layer, or else the default (`Settings.valueInForce?`). The settings are
these values, if all of them have the type that is expected; otherwise all settings are the
defaults.

Setting the executable puts it into the global layer and takes it out of the client layer, so it is
in force at once, and the values in force of the other keys stay.

## Main definitions

* `Settings.set?` — what a layer sets for a key.
* `Settings.valueInForce?` — what is in force for a key.
* `Settings.OthersFit` — the values in force have the expected types, but perhaps for the
  executable.

## Main results

* `Settings.get?_overlay` — laying a layer over others, key by key.
* `SettingsStore.current_withPath` — the executable that was set is in force.
-/

namespace LintBridge

namespace Settings

variable {below layer globalLayer clientLayer : Fields} {key : String} {path : String}

/-- What a layer sets for a key: nothing if the key is missing, `null` or blank. -/
def set? (layer : Fields) (key : String) : Option Json := (layer.get? key).filter (!isUnset ·)

/-- What is in force for a key. -/
def valueInForce? (globalLayer clientLayer : Fields) (key : String) : Option Json :=
  (set? clientLayer key).or ((set? globalLayer key).or (default.toFields.get? key))

/-- A layer is laid over others key by key. -/
theorem get?_overlay (h : layer.Ascending) :
    (overlay below layer).get? key = (set? layer key).or (below.get? key) := by
  induction layer generalizing below with
  | nil => rfl
  | cons p layer ih =>
    obtain ⟨k, v⟩ := p
    obtain ⟨hhead, hrest⟩ := List.pairwise_cons.mp h
    rw [overlay, List.foldl_cons, ← overlay, ih hrest]
    by_cases hk : k = key
    · subst hk
      have hnone : set? layer k = none := by
        rw [set?, Fields.get?_eq_none fun q hq => (hhead q hq).ne']
        rfl
      rw [hnone, set?, Fields.get?, if_pos rfl, Option.none_or]
      cases hunset : isUnset v with
      | true => simp [hunset, Option.filter_some]
      | false => simp [hunset, Option.filter_some, Fields.get?_insert]
    · have hset : set? ((k, v) :: layer) key = set? layer key := by
        rw [set?, Fields.get?, if_neg hk, ← set?]
      rw [hset]
      dsimp only
      split
      · rfl
      · rw [Fields.get?_insert, if_neg (Ne.symm hk)]

theorem get?_layers (hglobal : globalLayer.Ascending) (hclient : clientLayer.Ascending) :
    (overlay (overlay default.toFields globalLayer) clientLayer).get? key =
      valueInForce? globalLayer clientLayer key := by
  rw [get?_overlay hclient, get?_overlay hglobal]
  rfl

/-- The values in force have the expected types, but perhaps for the executable. -/
structure OthersFit (globalLayer clientLayer : Fields) : Prop where
  lintOnChange : (switch? false (valueInForce? globalLayer clientLayer lintOnChangeKey)).isSome
  timeoutMs : (count? defaultTimeoutMs (valueInForce? globalLayer clientLayer timeoutKey)).isSome
  passConfigDir : (switch? false (valueInForce? globalLayer clientLayer passConfigDirKey)).isSome

/-- **The executable in force is a setting**, if the other values in force have the expected
types. -/
theorem path_effective (hglobal : globalLayer.Ascending) (hclient : clientLayer.Ascending)
    (fit : OthersFit globalLayer clientLayer)
    (hpath : valueInForce? globalLayer clientLayer pathKey = some (.str path)) :
    (effective globalLayer clientLayer).path = some path := by
  obtain ⟨lintOnChange, hlintOnChange⟩ := Option.isSome_iff_exists.mp fit.lintOnChange
  obtain ⟨timeoutMs, htimeoutMs⟩ := Option.isSome_iff_exists.mp fit.timeoutMs
  obtain ⟨passConfigDir, hpassConfigDir⟩ := Option.isSome_iff_exists.mp fit.passConfigDir
  have hsettings : ofFields? (overlay (overlay default.toFields globalLayer) clientLayer) =
      some ⟨some path, lintOnChange, timeoutMs, passConfigDir⟩ := by
    simp only [ofFields?, get?_layers hglobal hclient, hpath, optionalText?, hlintOnChange,
      htimeoutMs, hpassConfigDir, Option.bind_eq_bind, Option.bind_some]
  rw [effective, hsettings]
  rfl

end Settings

namespace SettingsStore

variable {s : SettingsStore} {path key : String}

/-- The values in force of the other keys stay when the executable is set. -/
theorem valueInForce?_withPath_of_ne (hclient : s.clientLayer.Ascending)
    (hkey : key ≠ Settings.pathKey) :
    Settings.valueInForce? (s.withPath path).globalLayer (s.withPath path).clientLayer key =
      Settings.valueInForce? s.globalLayer s.clientLayer key := by
  rw [Settings.valueInForce?, Settings.set?, Settings.set?, withPath, Fields.get?_insert,
    Fields.get?_erase hclient, if_neg hkey, if_neg hkey]
  rfl

/-- The executable that was set is in force, unless it is blank. -/
theorem valueInForce?_withPath (hclient : s.clientLayer.Ascending)
    (hpath : Text.isBlankText path = false) :
    Settings.valueInForce? (s.withPath path).globalLayer (s.withPath path).clientLayer
      Settings.pathKey = some (.str path) := by
  rw [Settings.valueInForce?, Settings.set?, Settings.set?, withPath, Fields.get?_insert,
    Fields.get?_erase hclient, if_pos rfl, if_pos rfl]
  simp [Settings.isUnset, hpath]

open Settings in
/-- **The executable that was set is in force**, if the other values in force have the expected
types. -/
theorem current_withPath (hglobal : s.globalLayer.Ascending) (hclient : s.clientLayer.Ascending)
    (fit : Settings.OthersFit s.globalLayer s.clientLayer)
    (hpath : Text.isBlankText path = false) : (s.withPath path).current.path = some path := by
  have hlint : lintOnChangeKey ≠ pathKey := by decide
  have htimeout : timeoutKey ≠ pathKey := by decide
  have hconfig : passConfigDirKey ≠ pathKey := by decide
  have fit' : OthersFit (s.withPath path).globalLayer (s.withPath path).clientLayer := by
    constructor
    · rw [valueInForce?_withPath_of_ne hclient hlint]
      exact fit.lintOnChange
    · rw [valueInForce?_withPath_of_ne hclient htimeout]
      exact fit.timeoutMs
    · rw [valueInForce?_withPath_of_ne hclient hconfig]
      exact fit.passConfigDir
  exact path_effective hglobal.insert hclient.erase fit' (valueInForce?_withPath hclient hpath)

end SettingsStore

end LintBridge
