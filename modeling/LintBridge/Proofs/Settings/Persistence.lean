import Mathlib.Data.List.Induction
import LintBridge.Proofs.Files.Tree
import LintBridge.Proofs.Json.RoundTrip
import LintBridge.Proofs.Text.Utf8
import LintBridge.Settings.Store

/-!
# Settings that outlive the store

The store reads its file once and writes it whenever the executable is set. Between these the global
layer lives in memory, beside the client layer, which must not get into the file. So that the file
can stand for the layer, a layer that is written has to be read back as it was
(`SettingsStore.layerOfBytes_bytesOfLayer`), and the layer in memory has to be the one that was read
at first with the executable set, however many calls there have been (`SettingsStore.Keeps`).

A call that cannot write the file leaves the store with a layer that the file does not have. The
next one that can write it makes up for that.

## Main definitions

* `SettingsStore.Call`, `SettingsStore.run` — calls on a store, and where they lead.
* `SettingsStore.lastPath?` — the executable that was set last.

## Main results

* `SettingsStore.layerOfBytes_bytesOfLayer` — a layer is read back as it was written.
* `SettingsStore.reopened_after_calls` — a store opened on the file of another has its global layer.
-/

namespace LintBridge

namespace SettingsStore

/-! ### Calls -/

/-- A call on a store. -/
inductive Call where
  /-- The settings in force are asked for. -/
  | current
  | updateClient (payload : Json)
  | setPath (path : String)

/-- A store among files, and how the last call ended that set the executable. -/
structure Kept where
  store : SettingsStore
  files : Files
  outcome : Option (Except LintFailure Unit)

/-- A store that was just opened on a file. -/
def opened (t : Files) (cwd : Place) (file : Path) : Kept := ⟨load t cwd file, t, none⟩

/-- The store and the files after a call. -/
def Kept.after (cwd : Place) (k : Kept) : Call → Kept
  | .current => k
  | .updateClient payload => { k with store := k.store.updateClient payload }
  | .setPath path =>
    let (store, files, outcome) := k.store.setPath k.files cwd path
    ⟨store, files, some outcome⟩

/-- The store and the files after some calls. -/
def run (cwd : Place) (k : Kept) (calls : List Call) : Kept := calls.foldl (Kept.after cwd) k

/-- The executable that a call sets. -/
def Call.path? : Call → Option String
  | .setPath path => some path
  | _ => none

/-- The executable that was set last. -/
def lastPath? (calls : List Call) : Option String := (calls.filterMap Call.path?).getLast?

variable {t : Files} {cwd : Place} {file : Path} {layer : Fields} {calls : List Call} {call : Call}
  {k : Kept}

theorem run_concat : run cwd k (calls ++ [call]) = (run cwd k calls).after cwd call := by
  rw [run, List.foldl_append]
  rfl

theorem lastPath?_concat : lastPath? (calls ++ [call]) = call.path?.or (lastPath? calls) := by
  rw [lastPath?, List.filterMap_append]
  cases h : call.path? with
  | none => simp [h, lastPath?]
  | some p => simp [h]

/-! ### The file of a layer -/

/-- **A layer is read back as it was written**, if its fields are in order and its numbers whole. -/
theorem layerOfBytes_bytesOfLayer (whole : Json.All Json.IsWhole (.obj layer))
    (sorted : Json.All Json.IsSorted (.obj layer)) : layerOfBytes (bytesOfLayer layer) = layer := by
  rw [layerOfBytes, bytesOfLayer, Utf8.decode?_encode, Option.bind_some,
    Json.readRelaxed?_pretty whole sorted]

/-- The layer that a file holds has its fields in order. -/
theorem isSorted_loadLayer (t : Files) (cwd : Place) (file : Path) :
    Json.All Json.IsSorted (.obj (loadLayer t cwd file)) := by
  have hempty : Json.All Json.IsSorted (.obj []) := Json.all_obj.mpr ⟨List.Pairwise.nil, by simp⟩
  rw [loadLayer]
  split
  · next bytes _ =>
    rw [layerOfBytes]
    split
    · next fields hread =>
      obtain ⟨text, -, hread⟩ := Option.bind_eq_some_iff.mp hread
      exact Json.isSorted_of_readRelaxed? hread
    · exact hempty
  · exact hempty

/-! ### What calls keep -/

/-- The layer with the executable that was set last, if any was. -/
def withLast (layer : Fields) : Option String → Fields
  | some path => layer.insert Settings.pathKey (.str path)
  | none => layer

/-- A store that was opened on a file when the layer in it was `layer`, after calls of which the
last one to set the executable set `last?`. -/
structure Keeps (t : Files) (cwd : Place) (file : Path) (layer : Fields) (last? : Option String)
    (k : Kept) : Prop where
  file_eq : k.store.file = some file
  /-- The layer in memory differs from the first one in the executable alone. -/
  globalLayer_eq : k.store.globalLayer = withLast layer last?
  /-- Nothing was written if no executable was set. -/
  untouched : last? = none → k.files = t
  /-- If the last setting of the executable was written, then with all of the layer. -/
  written : last?.isSome → k.outcome = some (.ok ()) →
    ∃ before : Files, before.write cwd file (bytesOfLayer (withLast layer last?)) = .ok k.files

theorem keeps_opened (t : Files) (cwd : Place) (file : Path) :
    Keeps t cwd file (loadLayer t cwd file) none (opened t cwd file) where
  file_eq := rfl
  globalLayer_eq := rfl
  untouched := fun _ => rfl
  written := fun h => absurd h Bool.false_ne_true

/-- A layer that was saved was written to the file at last. -/
theorem write_of_saveLayer {t' : Files} (h : saveLayer t cwd file layer = (t', .ok ())) :
    ∃ before : Files, before.write cwd file (bytesOfLayer layer) = .ok t' := by
  simp only [saveLayer] at h
  split at h
  · cases h
  · next made _ =>
    split at h
    · next hwrite =>
      cases h
      exact ⟨made, hwrite⟩
    · cases h

/-- **Each call keeps it.** -/
theorem Keeps.after {last? : Option String} (h : Keeps t cwd file layer last? k) (call : Call) :
    Keeps t cwd file layer (call.path?.or last?) (k.after cwd call) := by
  obtain ⟨hfile, hlayer, huntouched, hwritten⟩ := h
  cases call with
  | current => exact ⟨hfile, hlayer, huntouched, hwritten⟩
  | updateClient payload => exact ⟨hfile, hlayer, huntouched, hwritten⟩
  | setPath path =>
    have hset : k.store.globalLayer.insert Settings.pathKey (.str path) =
        withLast layer (some path) := by
      rw [hlayer]
      cases last? with
      | none => rfl
      | some q => exact Fields.insert_insert
    have hafter : k.after cwd (.setPath path) =
        ⟨k.store.withPath path, (saveLayer k.files cwd file (withLast layer (some path))).1,
          some (saveLayer k.files cwd file (withLast layer (some path))).2⟩ := by
      simp only [Kept.after, setPath, withPath, hfile, hset]
    rw [hafter]
    refine ⟨hfile, hset, fun hnone => absurd hnone (Option.some_ne_none path), fun _ hok => ?_⟩
    exact write_of_saveLayer (Prod.ext rfl (Option.some.inj hok))

theorem keeps_run (t : Files) (cwd : Place) (file : Path) (calls : List Call) :
    Keeps t cwd file (loadLayer t cwd file) (lastPath? calls)
      (run cwd (opened t cwd file) calls) := by
  induction calls using List.reverseRecOn with
  | nil => exact keeps_opened t cwd file
  | append_singleton calls call ih =>
    rw [run_concat, lastPath?_concat]
    exact ih.after call

theorem isWhole_withPath {path : String} (whole : Json.All Json.IsWhole (.obj layer)) :
    Json.All Json.IsWhole (.obj (layer.insert Settings.pathKey (.str path))) := by
  refine Json.all_obj.mpr ⟨trivial, fun p hp => ?_⟩
  rcases Fields.mem_insert hp with rfl | hp
  · exact Json.IsSingle.all trivial trivial
  · exact (Json.all_obj.mp whole).2 p hp

/-- **A store opened on the file of another has its global layer.** However often the executable was
set and the client layer replaced: if the last setting of the executable was written, to a regular
file, then the layer that is read is the one that was read at first, with this executable under its
key and all else unchanged. Without any setting of the executable no file is touched. -/
theorem reopened_after_calls (t : Files) (cwd : Place) (file : Path) (calls : List Call)
    (whole : Json.All Json.IsWhole (.obj (loadLayer t cwd file))) :
    (lastPath? calls = none → (run cwd (opened t cwd file) calls).files = t) ∧
    ∀ path, lastPath? calls = some path →
      (run cwd (opened t cwd file) calls).outcome = some (.ok ()) →
      (run cwd (opened t cwd file) calls).files.IsRegularAt cwd file →
        load (run cwd (opened t cwd file) calls).files cwd file =
          ⟨some file, (loadLayer t cwd file).insert Settings.pathKey (.str path), []⟩ ∧
        ∀ key, (loadLayer (run cwd (opened t cwd file) calls).files cwd file).get? key =
          if key = Settings.pathKey then some (.str path) else (loadLayer t cwd file).get? key := by
  have hkeeps := keeps_run t cwd file calls
  refine ⟨hkeeps.untouched, fun path hlast hok regular => ?_⟩
  obtain ⟨before, hwrite⟩ := hkeeps.written (by rw [hlast]; rfl) hok
  rw [hlast] at hwrite
  have hread := Files.read_write hwrite regular
  have hlayer : loadLayer (run cwd (opened t cwd file) calls).files cwd file =
      (loadLayer t cwd file).insert Settings.pathKey (.str path) := by
    rw [loadLayer, hread]
    exact layerOfBytes_bytesOfLayer (isWhole_withPath whole)
      ((isSorted_loadLayer t cwd file).insert (Json.IsSingle.all_isSorted trivial))
  exact ⟨by rw [load, hlayer], fun key => by rw [hlayer, Fields.get?_insert]⟩

/-- A settings file with a key of its own beside the executable. -/
def keptText : String := "\x7b\"own\":[1], \"path\":\"old\"\x7d"

/-- The tree with nothing but a file at `/s`. -/
def oneFile (bytes : Bytes) : Files := ⟨[([Utf8.encode "s"], .file bytes false)]⟩

/-- The tree in which the settings file stands there. -/
def keptFiles : Files := oneFile (Utf8.encode keptText)

/-- The executable is set, the client names another, and then a third is set. -/
def keptCalls : List Call :=
  [.setPath "/a", .updateClient (.obj [("path", .str "/b")]), .current, .setPath "/c"]

theorem stat_oneFile (bytes : Bytes) :
    (oneFile bytes).stat [] (.ofString "/s") = .ok (.file bytes false) := by
  cbv

theorem saveLayer_oneFile (bytes : Bytes) (layer : Fields) :
    saveLayer (oneFile bytes) [] (.ofString "/s") layer =
      (oneFile (bytesOfLayer layer), .ok ()) := by
  have hparent : (Path.ofString "/s").parent? = some (.ofString "/") := by decide +kernel
  have hmade : (oneFile bytes).makeDirectories [] (.ofString "/") = .ok (oneFile bytes) := by cbv
  have hwrite (written : Bytes) : (oneFile bytes).write [] (.ofString "/s") written =
      .ok (oneFile written) := by cbv
  simp only [saveLayer, hparent, hmade, hwrite]

theorem loadLayer_keptFiles : loadLayer keptFiles [] (.ofString "/s") =
    [("own", .arr [.int 1]), ("path", .str "old")] := by
  have hread : keptFiles.read [] (.ofString "/s") = .ok (Utf8.encode keptText) := by cbv
  have htokens : Token.readAll? keptText.toList =
      some [.openBrace, .text "own", .colon, .openBracket, .numeral ['1'], .closeBracket, .comma,
        .text "path", .colon, .text "old", .closeBrace] := by decide +kernel
  have hvalue : Json.readRelaxed? keptText =
      some (some (.obj [("own", .arr [.int 1]), ("path", .str "old")])) := by
    rw [Json.readRelaxed?, htokens]
    rfl
  rw [loadLayer, hread]
  dsimp only
  rw [layerOfBytes, Utf8.decode?_encode, Option.bind_some, hvalue]

/-- The executable that was set last is read, beside what was in the file at first. -/
theorem kept_reopened :
    lastPath? keptCalls = some "/c" ∧
    (run [] (opened keptFiles [] (.ofString "/s")) keptCalls).outcome = some (.ok ()) ∧
    load (run [] (opened keptFiles [] (.ofString "/s")) keptCalls).files [] (.ofString "/s") =
      ⟨some (.ofString "/s"), [("own", .arr [.int 1]), ("path", .str "/c")], []⟩ := by
  have whole : Json.All Json.IsWhole (.obj (loadLayer keptFiles [] (.ofString "/s"))) := by
    rw [loadLayer_keptFiles]
    have hnumber : Json.All Json.IsWhole (.int 1) :=
      Json.IsSingle.all trivial ⟨by decide, by decide⟩
    have htext : Json.All Json.IsWhole (.str "old") := Json.IsSingle.all trivial trivial
    simp [Json.all_obj, Json.all_arr, Json.IsWhole, hnumber, htext]
  have hrun : run [] (opened keptFiles [] (.ofString "/s")) keptCalls =
      ⟨⟨some (.ofString "/s"), [("own", .arr [.int 1]), ("path", .str "/c")], []⟩,
        oneFile (bytesOfLayer [("own", .arr [.int 1]), ("path", .str "/c")]), some (.ok ())⟩ := by
    rw [opened, load, loadLayer_keptFiles]
    simp only [run, keptCalls, List.foldl_cons, List.foldl_nil, Kept.after, setPath, withPath,
      updateClient, keptFiles, saveLayer_oneFile]
    rfl
  have houtcome : (run [] (opened keptFiles [] (.ofString "/s")) keptCalls).outcome =
      some (.ok ()) := by
    rw [hrun]
  have regular : (run [] (opened keptFiles [] (.ofString "/s")) keptCalls).files.IsRegularAt []
      (.ofString "/s") := by
    intro node hnode
    rw [hrun, stat_oneFile] at hnode
    exact ⟨_, _, (Except.ok.inj hnode).symm⟩
  have hload := ((reopened_after_calls keptFiles [] (.ofString "/s") keptCalls whole).2 "/c" rfl
    houtcome regular).1
  rw [loadLayer_keptFiles] at hload
  refine ⟨rfl, houtcome, ?_⟩
  rw [hload]
  rfl

end SettingsStore

end LintBridge
