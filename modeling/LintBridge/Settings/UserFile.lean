import LintBridge.Script.Launch
import LintBridge.Settings.Store

/-!
# The settings file of the user

## Main definitions

* `SettingsStore.userFile?` — where the settings of the user are kept.
* `SettingsStore.ofUser` — the store of the user.
-/

namespace LintBridge

namespace SettingsStore

/-- The directory for the settings of the user: the one that is named for that, if it is named by an
absolute path, or else one in the home directory. -/
def userDirectory? (e : Environment) : Option Path :=
  let named := ((e.value? "XDG_CONFIG_HOME").map Path.mk).filter Path.isAbsolute
  let inHome := ((e.value? "HOME").map Path.mk).map fun home => home.join (.ofString ".config")
  named.or inHome

/-- Where the settings of the user are kept. -/
def userFile? (e : Environment) : Option Path :=
  (userDirectory? e).map fun d =>
    (d.join (.ofString "protolens")).join (.ofString "settings.json")

/-- The store of the user. -/
def ofUser (e : Environment) (t : Files) (cwd : Place) : SettingsStore :=
  match userFile? e with
  | some file => load t cwd file
  | none => inMemory

end SettingsStore

end LintBridge
