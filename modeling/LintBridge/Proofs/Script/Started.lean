import LintBridge.Proofs.Files.Scope
import LintBridge.Script.Launch

/-!
# The file that is started

A program is started by a path or by a bare name, and from some directory. Only a relative path
depends on the directory: an absolute one leads to the same file from everywhere
(`Files.find_of_isAbsolute`), and so does a bare name if the directories of the search path are
absolute. There is one exception, since a script may name its interpreter by a relative path:
whether there is such an interpreter depends on the directory, and with it whether the script can be
started, or is passed over in the search. In a tree without such scripts (`Files.IsRooted`), what a
program comes to is the same from everywhere (`Program.find_of_isFixed`).

## Main definitions

* `Launch.file?` — the file that is started.
* `Files.IsRooted` — no script names its interpreter by a relative path.
* `Program.IsFixed` — a command that does not depend on the directory.

## Main results

* `Launch.exists_file?_of_run` — what runs was started from a file.
* `Launch.find_of_file?` — an absolute path is the same file from everywhere.
* `Launch.file?_of_isFixed` — in a tree without such scripts, it is started from everywhere.
-/

namespace LintBridge

namespace Files

variable {t : Files} {path : Path}

theorem find_of_isAbsolute (absolute : path.isAbsolute) (cwd cwd' : Place) (follows : Bool) :
    t.find cwd path follows = t.find cwd' path follows := by
  unfold find
  split
  · rfl
  · rw [if_pos absolute, if_pos absolute]

theorem stat_of_isAbsolute (absolute : path.isAbsolute) (cwd cwd' : Place) :
    t.stat cwd path = t.stat cwd' path := by
  rw [stat, stat, find_of_isAbsolute absolute cwd cwd']

/-- No script names its interpreter by a relative path. -/
def IsRooted (t : Files) : Prop :=
  ∀ place content isExecutable interpreter argument,
    t.node? place = some (.file content isExecutable) →
      Program.interpreter? content = some (interpreter, argument) →
        (⟨interpreter⟩ : Path).isAbsolute

end Files

namespace Program

variable {t : Files} {cwd cwd' : Place} {name path : Bytes} {ds : List Bytes} {failure : Errno}
  {p : Program}

/-- What a file with an absolute path is as a program is the same from everywhere. -/
theorem loadUpTo_of_isAbsolute (rooted : t.IsRooted) (absolute : (⟨path⟩ : Path).isAbsolute)
    (interpreters : Nat) (cwd cwd' : Place) :
    loadUpTo t cwd interpreters path = loadUpTo t cwd' interpreters path := by
  induction interpreters generalizing path with
  | zero =>
    rw [loadUpTo, loadUpTo, Files.stat_of_isAbsolute absolute cwd cwd']
    cases t.stat cwd' ⟨path⟩ with
    | error e => rfl
    | ok node =>
      cases node with
      | file content isExecutable =>
        cases hhead : interpreter? content <;> simp only [hhead]
      | _ => rfl
  | succ n ih =>
    rw [loadUpTo, loadUpTo, Files.stat_of_isAbsolute absolute cwd cwd']
    cases hstat : t.stat cwd' ⟨path⟩ with
    | error e => rfl
    | ok node =>
      cases node with
      | file content isExecutable =>
        obtain ⟨place, -, hnode⟩ := Files.stat_eq_ok_iff.mp hstat
        cases hhead : interpreter? content with
        | none => simp only [hhead]
        | some head =>
          obtain ⟨interpreter, argument⟩ := head
          simp only [hhead, ih (rooted place content isExecutable interpreter argument hnode hhead)]
      | _ => rfl

/-- A file that is a program is there. -/
theorem exists_find_of_load (h : load t cwd path = .ok p) :
    ∃ place, t.find cwd ⟨path⟩ true = .ok place := by
  cases hstat : t.stat cwd ⟨path⟩ with
  | error e =>
    rw [load, interpreterLimit, loadUpTo, hstat] at h
    cases h
  | ok node =>
    obtain ⟨place, hfind, -⟩ := Files.stat_eq_ok_iff.mp hstat
    exact ⟨place, hfind⟩

/-- What was found is a file of the name in one of the directories. -/
theorem of_search (h : search t cwd name failure ds = .ok (path, p)) :
    (∃ d ∈ ds, path = inDirectory d name) ∧ load t cwd path = .ok p := by
  induction ds generalizing failure with
  | nil => cases h
  | cons d ds ih =>
    have later {failure : Errno} (h : search t cwd name failure ds = .ok (path, p)) :
        (∃ d' ∈ d :: ds, path = inDirectory d' name) ∧ load t cwd path = .ok p := by
      obtain ⟨⟨d', hd', hpath⟩, hload⟩ := ih h
      exact ⟨⟨d', List.mem_cons_of_mem d hd', hpath⟩, hload⟩
    cases hload : load t cwd (inDirectory d name) with
    | ok p' =>
      simp only [search, hload, Except.ok.injEq, Prod.mk.injEq] at h
      obtain ⟨rfl, rfl⟩ := h
      exact ⟨⟨d, List.mem_cons_self, rfl⟩, hload⟩
    | error e =>
      simp only [search, hload] at h
      split at h
      · exact later h
      · split at h
        · exact later h
        · cases h

theorem isAbsolute_inDirectory {d : Bytes} (absolute : (⟨d⟩ : Path).isAbsolute) (name : Bytes) :
    (⟨inDirectory d name⟩ : Path).isAbsolute := by
  cases d with
  | nil => cases absolute
  | cons b d => exact absolute

theorem search_of_isAbsolute (rooted : t.IsRooted)
    (absolute : ∀ d ∈ ds, (⟨d⟩ : Path).isAbsolute) (failure : Errno) (cwd cwd' : Place) :
    search t cwd name failure ds = search t cwd' name failure ds := by
  induction ds generalizing failure with
  | nil => rfl
  | cons d ds ih =>
    have hload : load t cwd (inDirectory d name) = load t cwd' (inDirectory d name) :=
      loadUpTo_of_isAbsolute rooted
        (isAbsolute_inDirectory (absolute d List.mem_cons_self) name) _ cwd cwd'
    have hlater := ih fun d' hd' => absolute d' (List.mem_cons_of_mem d hd')
    simp only [search, hload, hlater]

/-- A command that does not depend on the directory: an absolute path, or a bare name that is looked
up in absolute directories. -/
def IsFixed (environment : Environment) (command : Bytes) : Prop :=
  (⟨command⟩ : Path).isAbsolute ∨ Path.slash ∉ command ∧
    ∀ d ∈ directories environment.searchPath, (⟨d⟩ : Path).isAbsolute

theorem slash_mem_of_isAbsolute (absolute : (⟨name⟩ : Path).isAbsolute) :
    Path.slash ∈ name := by
  rw [Path.isAbsolute, beq_iff_eq] at absolute
  exact List.mem_of_mem_head? absolute

/-- A path stands for itself. -/
theorem find_of_slash (h : Path.slash ∈ name) (searchPath : Bytes) :
    find t cwd searchPath name = (load t cwd name).map fun p => (name, p) := by
  rw [find, if_neg (List.ne_nil_of_mem h), if_pos (List.contains_iff_mem.mpr h)]

/-- A bare name is looked up. -/
theorem find_of_bare (h : Path.slash ∉ name) (searchPath : Bytes) :
    find t cwd searchPath name = if name = [] then .error .noEntry
      else if Files.nameLimit < name.length then .error .nameTooLong
      else search t cwd name .noEntry (directories searchPath) := by
  have hbare : ¬ name.contains Path.slash = true := by rwa [List.contains_iff_mem]
  rw [find, if_neg hbare]

/-- **What a command stands for is the same from everywhere** if it does not depend on the directory
and no script names its interpreter by a relative path. -/
theorem find_of_isFixed {environment : Environment} (rooted : t.IsRooted)
    (fixed : IsFixed environment name) (cwd cwd' : Place) :
    find t cwd environment.searchPath name = find t cwd' environment.searchPath name := by
  rcases fixed with absolute | ⟨bare, directories⟩
  · have hload : load t cwd name = load t cwd' name :=
      loadUpTo_of_isAbsolute rooted absolute _ cwd cwd'
    have hslash := slash_mem_of_isAbsolute absolute
    rw [find_of_slash hslash, find_of_slash hslash, hload]
  · rw [find_of_bare bare, find_of_bare bare,
      search_of_isAbsolute rooted directories .noEntry cwd cwd']

/-- What was found is a program: the path itself, or the name in one of the directories. -/
theorem of_find {searchPath : Bytes} (h : find t cwd searchPath name = .ok (path, p)) :
    load t cwd path = .ok p ∧ (path = name ∧ Path.slash ∈ name ∨
      Path.slash ∉ name ∧ ∃ d ∈ directories searchPath, path = inDirectory d name) := by
  by_cases hslash : Path.slash ∈ name
  · rw [find_of_slash hslash] at h
    cases hload : load t cwd name with
    | error e =>
      rw [hload] at h
      cases h
    | ok p' =>
      rw [hload] at h
      cases h
      exact ⟨hload, .inl ⟨rfl, hslash⟩⟩
  · rw [find_of_bare hslash] at h
    split at h
    · cases h
    · split at h
      · cases h
      · obtain ⟨hd, hload⟩ := of_search h
        exact ⟨hload, .inr ⟨hslash, hd⟩⟩

/-- A command that does not depend on the directory is found under an absolute path. -/
theorem isAbsolute_of_find {environment : Environment} (fixed : IsFixed environment name)
    (h : find t cwd environment.searchPath name = .ok (path, p)) : (⟨path⟩ : Path).isAbsolute := by
  rcases fixed with absolute | ⟨bare, directories⟩
  · obtain ⟨-, ⟨rfl, -⟩ | ⟨bare, -⟩⟩ := of_find h
    · exact absolute
    · exact absurd (slash_mem_of_isAbsolute absolute) bare
  · obtain ⟨-, ⟨-, slash⟩ | ⟨-, d, hd, rfl⟩⟩ := of_find h
    · exact absurd slash bare
    · exact isAbsolute_inDirectory (directories d hd) name

end Program

namespace Launch

variable {l l' : Launch} {t : Files} {cwd cwd' place file : Place} {m : Machine}

/-- The file that is started. -/
def file? (l : Launch) (t : Files) (cwd : Place) : Except Errno Place :=
  match l.place t cwd with
  | .error e => .error e
  | .ok place =>
    match Program.find t place l.environment.searchPath l.command with
    | .ok (path, _) => t.find place ⟨path⟩ true
    | .error e =>
      if e = .notExecutable ∧ l.trusts then t.find place ⟨l.command⟩ true else .error e

/-- A file is not given to the shell if the command does not depend on the directory. -/
theorem trusts_of_isFixed {environment : Environment}
    (fixed : Program.IsFixed environment l.command) : l.trusts = false := by
  rcases fixed with absolute | ⟨bare, -⟩
  · rw [Path.isAbsolute, beq_iff_eq] at absolute
    simp [trusts, absolute]
  · simp [trusts, bare]

/-- The file that is started is the one under which the command is found, unless one is given to the
shell. -/
theorem file?_eq (hplace : l.place t cwd = .ok place) (wary : l.trusts = false) :
    l.file? t cwd = (Program.find t place l.environment.searchPath l.command).bind
      fun found => t.find place ⟨found.1⟩ true := by
  simp only [file?, hplace, wary]
  cases Program.find t place l.environment.searchPath l.command with
  | error e => simp [Except.bind]
  | ok found => rfl

theorem exists_place_of_file? (h : l.file? t cwd = .ok file) :
    ∃ place, l.place t cwd = .ok place := by
  cases hplace : l.place t cwd with
  | error e =>
    rw [file?, hplace] at h
    cases h
  | ok place => exact ⟨place, rfl⟩

/-- **What runs was started from a file.** -/
theorem exists_file?_of_run {finished : Finished} (wary : l.trusts = false)
    (h : (l.run cwd m).2 = .ok finished) : ∃ file, l.file? m.files cwd = .ok file := by
  unfold run at h
  split at h
  · cases h
  · split at h
    · cases h
    · next place hplace =>
      rw [file?_eq hplace wary]
      cases hfind : Program.find m.files place l.environment.searchPath l.command with
      | error e =>
        rw [program, hfind, wary] at h
        simp at h
      | ok found => exact Program.exists_find_of_load (Program.of_find hfind).1

/-- What is started by an absolute path is what it leads to. -/
theorem find_of_file? (absolute : (⟨l.command⟩ : Path).isAbsolute)
    (h : l.file? t cwd = .ok file) (cwd' : Place) :
    t.find cwd' ⟨l.command⟩ true = .ok file := by
  obtain ⟨place, hplace⟩ := exists_place_of_file? h
  have fixed : Program.IsFixed l.environment l.command := .inl absolute
  rw [file?_eq hplace (trusts_of_isFixed fixed),
    Program.find_of_slash (Program.slash_mem_of_isAbsolute absolute)] at h
  rw [Files.find_of_isAbsolute absolute cwd' place]
  cases hload : Program.load t place l.command with
  | error e =>
    rw [hload] at h
    cases h
  | ok p => rwa [hload] at h

/-- **In a tree without scripts that name their interpreters by relative paths, the same file is
started from everywhere** by a command that does not depend on the directory. -/
theorem file?_of_isFixed (rooted : t.IsRooted) (fixed : Program.IsFixed l.environment l.command)
    (hcommand : l'.command = l.command) (henvironment : l'.environment = l.environment)
    (hplace : l'.place t cwd' = .ok place) (h : l.file? t cwd = .ok file) :
    l'.file? t cwd' = .ok file := by
  obtain ⟨place', hplace'⟩ := exists_place_of_file? h
  have fixed' : Program.IsFixed l'.environment l'.command := by rwa [hcommand, henvironment]
  rw [file?_eq hplace' (trusts_of_isFixed fixed)] at h
  rw [file?_eq hplace (trusts_of_isFixed fixed'), hcommand, henvironment,
    Program.find_of_isFixed rooted fixed place place']
  cases hfind : Program.find t place' l.environment.searchPath l.command with
  | error e =>
    rw [hfind] at h
    cases h
  | ok found =>
    rw [hfind] at h
    have absolute := Program.isAbsolute_of_find fixed hfind
    exact (Files.find_of_isAbsolute absolute place place' true).trans h

/-- The same file is started from the same directory. -/
theorem file?_of_place (wary : l.trusts = false) (hcommand : l'.command = l.command)
    (henvironment : l'.environment = l.environment) (hplace : l'.place t cwd' = l.place t cwd)
    (h : l.file? t cwd = .ok file) : l'.file? t cwd' = .ok file := by
  obtain ⟨place, hplace'⟩ := exists_place_of_file? h
  have heq := file?_eq hplace' wary
  simp only [file?, hplace, hplace', hcommand, henvironment]
  rw [heq] at h
  cases hfind : Program.find t place l.environment.searchPath l.command with
  | error e =>
    rw [hfind] at h
    cases h
  | ok found => rwa [hfind] at h

end Launch

end LintBridge
