import Mathlib.Tactic.SplitIfs
import LintBridge.Executable.Resolver
import LintBridge.Linter.Run
import LintBridge.Proofs.Path.Parent
import LintBridge.Proofs.Script.Started
import LintBridge.Proofs.Text.Utf8

/-!
# What was validated is started

The bridge tries an executable from its own directory, and starts the linter from the directory of
the document or from the workspace root. What a setting makes it try is an absolute path, a bare
name, or a relative path with a slash in it. An absolute path is the same file from everywhere, and
so is a bare name. A relative path with a slash is not: it is what a setting comes to if it is one
itself and there is no workspace root from which it could be taken
(`Executable.isNearby_probePath_iff`). Then the bridge validates one file and the linter is another
one, or cannot be started (`Executable.neighbour_started`).

## Main definitions

* `Executable.IsNearby` — a relative path with a slash in it.

## Main results

* `Executable.isNearby_probePath_iff` — when such a path is tried.
* `Executable.validated_started` — in all other cases, the linter is the file that was validated.
* `Executable.neighbour_started` — one that is not.
-/

namespace LintBridge

namespace Path

variable {p : Path}

theorem isAbsolute_join (absolute : p.isAbsolute) (q : Path) : (p.join q).isAbsolute := by
  obtain ⟨bytes⟩ := p
  unfold join
  split
  · assumption
  · cases bytes with
    | nil => cases absolute
    | cons b bytes =>
      rw [if_neg (List.cons_ne_nil b bytes)]
      split <;> exact absolute

/-- An absolute path is shown as one. -/
theorem isAbsolute_display (absolute : p.isAbsolute) : (ofString p.display).isAbsolute := by
  obtain ⟨bytes⟩ := p
  cases bytes with
  | nil => cases absolute
  | cons b bytes =>
    obtain rfl : b = slash := by simpa [isAbsolute] using absolute
    have htext : (display ⟨slash :: bytes⟩).toList = '/' :: (Utf8.lossy bytes).toList :=
      Utf8.lossy_cons_of_ascii (by decide)
    rw [ofString, Utf8.encode, htext, List.flatMap_cons]
    exact isAbsolute_slash _

end Path

theorem Files.isAbsolute_pathOf (place : Place) : (pathOf place).isAbsolute := by
  cases place with
  | nil => decide
  | cons name place => exact Path.isAbsolute_slash _

namespace Executable

variable {environment : Environment} {cwd : Place} {m : Machine} {setting : Option String}
  {root found : Option Path} {p : String}

/-! ### What is tried -/

/-- A relative path with a slash in it: a file near the directory from which it is taken. -/
def IsNearby (name : String) : Prop :=
  (Path.ofString name).isAbsolute = false ∧ Path.slash ∈ Utf8.encode name

instance (name : String) : Decidable (IsNearby name) := inferInstanceAs (Decidable (_ ∧ _))

theorem not_isNearby_of_isAbsolute (absolute : (Path.ofString p).isAbsolute) : ¬ IsNearby p := by
  rintro ⟨relative, -⟩
  rw [absolute] at relative
  cases relative

theorem isAbsolute_located (place : Place) (path : Path) :
    (located (Files.pathOf place) path).isAbsolute := by
  unfold located
  split
  · assumption
  · generalize (path.components.dropWhile (· = .here)).map Component.bytes = names
    have hstart := Files.isAbsolute_pathOf place
    generalize Files.pathOf place = start at hstart ⊢
    induction names generalizing start with
    | nil => exact hstart
    | cons name names ih => exact ih _ (Path.isAbsolute_join hstart _)

/-- What is found on the search path is given as an absolute path. -/
theorem isAbsolute_of_findDefault? {t : Files} {file : Path}
    (h : findDefault? environment t cwd = some file) : file.isAbsolute := by
  obtain ⟨candidate, -, rfl⟩ := Option.map_eq_some_iff.mp h
  exact isAbsolute_located cwd candidate

theorem not_isNearby_defaultName : ¬ IsNearby defaultName := by decide

/-- With a workspace root, an absolute path or the default name is asked for. -/
theorem not_isNearby_configuredPath {dir : Path} (absolute : dir.isAbsolute) :
    ¬ IsNearby (configuredPath setting (some dir)) := by
  unfold configuredPath
  dsimp only
  split
  · exact not_isNearby_defaultName
  · split
    · exact not_isNearby_of_isAbsolute (Path.isAbsolute_display (Path.isAbsolute_join absolute _))
    · next habsolute =>
      refine not_isNearby_of_isAbsolute ?_
      simpa [Path.isRelative] using habsolute

/-- Without one, the setting itself. -/
theorem isNearby_configuredPath_iff :
    IsNearby (configuredPath setting none) ↔ IsNearby (Text.trim (setting.getD "")) := by
  unfold configuredPath
  dsimp only
  split
  · next hdefault =>
    refine iff_of_false not_isNearby_defaultName ?_
    rcases hdefault with hblank | hname
    · rw [hblank]
      decide
    · rw [hname]
      exact not_isNearby_defaultName
  · exact Iff.rfl

/-- The place at which the default name is found is tried in its stead. -/
theorem probePath_cases (found : Option Path) (setting : Option String) (root : Option Path) :
    probePath found setting root = configuredPath setting root ∨
      configuredPath setting root = defaultName ∧
        ∃ file, found = some file ∧ probePath found setting root = file.display := by
  unfold probePath
  cases found with
  | none => exact .inl rfl
  | some file =>
    dsimp only
    split
    · next hname => exact .inr ⟨hname, file, rfl, rfl⟩
    · exact .inl rfl

/-- **When a path near the server is tried**: the setting is such a path, and there is no workspace
root. -/
theorem isNearby_probePath_iff (hfound : ∀ file, found = some file → file.isAbsolute)
    (hroot : ∀ dir, root = some dir → dir.isAbsolute) :
    IsNearby (probePath found setting root) ↔
      root = none ∧ IsNearby (Text.trim (setting.getD "")) := by
  have hconfigured : IsNearby (configuredPath setting root) ↔
      root = none ∧ IsNearby (Text.trim (setting.getD "")) := by
    cases root with
    | none => rw [isNearby_configuredPath_iff, eq_self, true_and]
    | some dir =>
      exact iff_of_false (not_isNearby_configuredPath (hroot dir rfl)) fun h => by cases h.1
  rcases probePath_cases found setting root with hprobe | ⟨hname, file, hfile, hprobe⟩
  · rw [hprobe, hconfigured]
  · rw [← hconfigured, hprobe, hname]
    exact iff_of_false
      (not_isNearby_of_isAbsolute (Path.isAbsolute_display (hfound file hfile)))
      not_isNearby_defaultName

/-- What is available was started and has run. -/
theorem of_available (h : (available environment cwd m setting root).2 = some p) :
    p = probePath (findDefault? environment m.files cwd) setting root ∧
      ∃ finished, ((versionLaunch environment p).run cwd m).2 = .ok finished := by
  unfold available validate remembered at h
  dsimp only at h
  split at h
  · next hvalid =>
    obtain rfl := Option.some.inj h
    refine ⟨rfl, ?_⟩
    unfold isValid at hvalid
    split at hvalid
    · cases hvalid
    · split at hvalid
      · next finished hrun => exact ⟨finished, by rw [hrun]⟩
      · cases hvalid
  · cases h

/-! ### What is started -/

/-- Nothing but a path near the server depends on the directory, if those of the search path are
absolute. -/
theorem isFixed_of_not_isNearby (h : ¬ IsNearby p)
    (directories : ∀ d ∈ Program.directories environment.searchPath, (⟨d⟩ : Path).isAbsolute) :
    Program.IsFixed environment (Utf8.encode p) := by
  cases habsolute : (Path.ofString p).isAbsolute with
  | true => exact .inl habsolute
  | false => exact .inr ⟨fun slash => h ⟨habsolute, slash⟩, directories⟩

/-- **The linter is the file that was validated**, unless the setting is a relative path with a
slash and there is no workspace root. What is available was started from a file. A linter that
starts in the directory of the bridge is the same file, and so is one with an absolute path, if it
can be started at all. It can be started from every directory if no script names its interpreter by
a relative path, and then a bare name is the same file as well. -/
theorem validated_started (available : (available environment cwd m setting root).2 = some p)
    (hroot : ∀ dir, root = some dir → dir.isAbsolute)
    (directories : ∀ d ∈ Program.directories environment.searchPath, (⟨d⟩ : Path).isAbsolute) :
    (∃ file, (versionLaunch environment p).file? m.files cwd = .ok file) ∧
    (IsNearby p ↔ root = none ∧ IsNearby (Text.trim (setting.getD ""))) ∧
    ∀ t file, (versionLaunch environment p).file? t cwd = .ok file →
      ∀ job target input, job.executable = p →
        ((Linter.launch job environment t cwd target input).place t cwd = .ok cwd →
          (Linter.launch job environment t cwd target input).file? t cwd = .ok file) ∧
        ((Path.ofString p).isAbsolute → ∀ file',
          (Linter.launch job environment t cwd target input).file? t cwd = .ok file' →
            file' = file) ∧
        (¬ IsNearby p → t.IsRooted → ∀ place,
          (Linter.launch job environment t cwd target input).place t cwd = .ok place →
            (Linter.launch job environment t cwd target input).file? t cwd = .ok file) := by
  obtain ⟨hprobe, finished, hrun⟩ := of_available available
  have wary : (versionLaunch environment p).trusts = false := rfl
  refine ⟨Launch.exists_file?_of_run wary hrun, ?_, ?_⟩
  · rw [hprobe]
    exact isNearby_probePath_iff (fun file hfile => isAbsolute_of_findDefault? hfile) hroot
  · rintro t file hfile job target input rfl
    refine ⟨fun hplace => ?_, fun absolute file' hfile' => ?_, fun hfar rooted place hplace => ?_⟩
    · exact Launch.file?_of_place wary rfl rfl hplace hfile
    · have tried := Launch.find_of_file? (l := versionLaunch environment job.executable) absolute
        hfile cwd
      have started := Launch.find_of_file? absolute hfile' cwd
      exact Except.ok.inj (started.symm.trans tried)
    · have fixed := isFixed_of_not_isNearby hfar directories
      exact Launch.file?_of_isFixed (l := versionLaunch environment job.executable) rooted fixed rfl
        rfl hplace hfile

/-- A machine with a program `/b/t` that succeeds and a program `/d/b/t` that fails. -/
def twoTools : Machine :=
  .ofFiles ⟨[([[98]], .directory), ([[98], [116]], .program "true"), ([[100]], .directory),
    ([[100], [98]], .directory), ([[100], [98], [116]], .program "false")]⟩ 0

/-- The document `/d/a`, with changes. -/
def neighbour : LintTarget := ⟨some ⟨[47, 100, 47, 97]⟩, "", 0, true, false⟩

/-- **A linter that is not the file that was validated**: the bridge works in the root directory,
and the setting is `b/t`. It tries `/b/t`, which is valid; the linter is `/d/b/t`. -/
theorem neighbour_started :
    (available [] [] twoTools (some "b/t") none).2 = some "b/t" ∧
    (versionLaunch [] "b/t").file? twoTools.files [] = .ok [[98], [116]] ∧
    (Linter.launch ⟨"b/t", [], false, none⟩ [] twoTools.files [] neighbour ⟨[]⟩).file?
      twoTools.files [] = .ok [[100], [98], [116]] := by
  exact ⟨by decide +kernel, by decide +kernel, by decide +kernel⟩

/-- With a workspace root `/`, the same setting stands for `/b/t` from everywhere. -/
theorem rooted_neighbour_started :
    (available [] [] twoTools (some "b/t") (some ⟨[47]⟩)).2 = some "/b/t" ∧
    (∀ dir, some (⟨[47]⟩ : Path) = some dir → dir.isAbsolute) ∧
    (∀ d ∈ Program.directories (Environment.searchPath []), (⟨d⟩ : Path).isAbsolute) ∧
    twoTools.files.IsRooted ∧
    (Linter.launch ⟨"/b/t", [], false, none⟩ [] twoTools.files [] neighbour ⟨[]⟩).file?
      twoTools.files [] = .ok [[98], [116]] := by
  have valid : (available [] [] twoTools (some "b/t") (some ⟨[47]⟩)).2 = some "/b/t" := by
    decide +kernel
  have hroot : ∀ dir, some (⟨[47]⟩ : Path) = some dir → dir.isAbsolute := by
    rintro dir ⟨⟩
    rfl
  have directories : ∀ d ∈ Program.directories (Environment.searchPath []),
      (⟨d⟩ : Path).isAbsolute := by decide
  have rooted : twoTools.files.IsRooted := by
    intro place content isExecutable interpreter argument hnode
    simp only [twoTools, Machine.ofFiles, Files.node?, Files.lookup] at hnode
    split_ifs at hnode <;> cases hnode
  have tried : (versionLaunch [] "/b/t").file? twoTools.files [] = .ok [[98], [116]] := by
    decide +kernel
  have starts : (Linter.launch ⟨"/b/t", [], false, none⟩ [] twoTools.files [] neighbour ⟨[]⟩).place
      twoTools.files [] = .ok [[100]] := by decide +kernel
  obtain ⟨-, hnearby, hstarted⟩ := validated_started valid hroot directories
  have hfar : ¬ IsNearby "/b/t" := fun h => by cases (hnearby.mp h).1
  exact ⟨valid, hroot, directories, rooted,
    (hstarted _ _ tried ⟨"/b/t", [], false, none⟩ neighbour ⟨[]⟩ rfl).2.2 hfar rooted _ starts⟩

end Executable

end LintBridge
