import LintBridge.Files.Tree
import LintBridge.Json.Printer
import LintBridge.Json.Relaxed
import LintBridge.Linter.Failure
import LintBridge.Settings.Layers

/-!
# The store of settings

The store holds the two layers of settings and knows the file of the global one, if it has any. The
file is read once, when the store is opened; a file that is missing or cannot be understood counts
as empty. It is written when the executable is set.

## Main definitions

* `SettingsStore` — the store.
* `SettingsStore.load` — a store opened on a file.
* `SettingsStore.current` — the settings in force.
* `SettingsStore.updateClient` — replaces the client layer.
* `SettingsStore.setPath` — sets the executable.
-/

namespace LintBridge

/-- The layers of settings, and the file of the global one. -/
structure SettingsStore where
  /-- The file of the global layer; none if that layer is not kept. -/
  file : Option Path
  globalLayer : Fields
  clientLayer : Fields

namespace SettingsStore

/-- A store without a file. -/
def inMemory : SettingsStore := ⟨none, [], []⟩

/-- The global layer that the bytes of a file hold. -/
def layerOfBytes (bytes : Bytes) : Fields :=
  match (Utf8.decode? bytes).bind Json.readRelaxed? with
  | some (some (.obj fields)) => fields
  | _ => []

/-- The global layer that a file holds. -/
def loadLayer (t : Files) (cwd : Place) (file : Path) : Fields :=
  match t.read cwd file with
  | .ok bytes => layerOfBytes bytes
  | .error _ => []

/-- A store opened on a file. -/
def load (t : Files) (cwd : Place) (file : Path) : SettingsStore :=
  ⟨some file, loadLayer t cwd file, []⟩

/-- The settings in force. -/
def current (s : SettingsStore) : Settings :=
  Settings.effective s.globalLayer s.clientLayer

/-- Replaces the client layer by the one in what the editor sends. -/
def updateClient (s : SettingsStore) (payload : Json) : SettingsStore :=
  { s with clientLayer := (Settings.section? payload).getD [] }

/-- The bytes of the file that holds a global layer. -/
def bytesOfLayer (layer : Fields) : Bytes :=
  Utf8.encode ((Json.obj layer).pretty ++ "\n")

/-- Writes a global layer to its file. Directories that are missing are made, and stay even if the
file cannot be written. -/
def saveLayer (t : Files) (cwd : Place) (file : Path) (layer : Fields) :
    Files × Except LintFailure Unit :=
  let made := match file.parent? with
    | some parent => t.makeDirectories cwd parent
    | none => .ok t
  match made with
  | .error e => (t, .error (.io (.ofPath file e)))
  | .ok t =>
    match t.write cwd file (bytesOfLayer layer) with
    | .ok t => (t, .ok ())
    | .error e => (t, .error (.io (.ofPath file e)))

/-- The layers after the executable is set. A path in the client layer is dropped, so that the new
one takes effect. -/
def withPath (s : SettingsStore) (path : String) : SettingsStore :=
  { s with
    globalLayer := s.globalLayer.insert Settings.pathKey (.str path)
    clientLayer := s.clientLayer.erase Settings.pathKey }

/-- Sets the executable and writes the global layer to its file. The store has the new path even if
writing fails. -/
def setPath (s : SettingsStore) (t : Files) (cwd : Place) (path : String) :
    SettingsStore × Files × Except LintFailure Unit :=
  let s := s.withPath path
  match s.file with
  | none => (s, t, .ok ())
  | some file => (s, saveLayer t cwd file s.globalLayer)

end SettingsStore

end LintBridge
