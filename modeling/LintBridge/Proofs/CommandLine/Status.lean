import LintBridge.CommandLine.Run
import LintBridge.Proofs.Report.Pipeline

/-!
# The status with which the linting of files ends

The files of a request are linted one after another, with the one executable that was found, until
one of them cannot be read. Each run starts where the one before has left the machine, so what a
file holds, and whether it can be read, counts only when its turn comes. The status is made from
the reports: a problem on a line that the file does not have is in no report. So a file for which
the linter has reported problems, but none on any of its lines, counts like a clean one.

## Main definitions

* `LintRequest.Lints` — what comes of linting files one after another.
* `LintRequest.Course` — what comes of a request for which an executable was found.
* `LintedFile.HasFinding` — some problem lies on a line of the file.

## Main results

* `LintRequest.Course.status` — the status after a course.
* `LintRequest.status_run` — which requests end with which status.
-/

namespace LintBridge

/-! ### Files with findings -/

namespace LintedFile

variable {f : LintedFile}

/-- Some problem that the linter has reported lies on a line of the file. -/
def HasFinding (f : LintedFile) : Prop :=
  ∃ r ∈ f.outcome.records, 1 ≤ r.line ∧ r.line ≤ Text.lineCount f.text.toList

instance : Decidable f.HasFinding :=
  inferInstanceAs (Decidable (∃ r ∈ f.outcome.records,
    1 ≤ r.line ∧ r.line ≤ Text.lineCount f.text.toList))

/-- Only a file with problems has one on its lines. -/
theorem HasFinding.problems (h : f.HasFinding) : ∃ rs, f.outcome = .problems rs := by
  obtain ⟨r, hr, -⟩ := h
  cases houtcome : f.outcome with
  | problems rs => exact ⟨rs, rfl⟩
  | clean | toolFailure | transportFailure =>
    rw [houtcome] at hr
    cases hr

/-- The report on a file shows the problems that lie on its lines, and no others. -/
theorem findings_eq_nil_iff : f.report.findings = [] ↔ ¬ f.HasFinding := by
  simp only [report, Outcome.findings, LineTable.resolve, List.filterMap_eq_nil_iff,
    Option.map_eq_none_iff, HasFinding, not_exists, not_and]
  refine forall₂_congr fun r _ => ?_
  rw [← Option.not_isSome_iff_eq_none, LineTable.isSome_span?_ofText, not_and]

theorem hasProblems_iff {files : List LintedFile} :
    FileReport.hasProblems (files.map report) ↔ ∃ f ∈ files, f.HasFinding := by
  simp [FileReport.hasProblems, findings_eq_nil_iff]

end LintedFile

namespace LintRequest

variable {r : LintRequest} {environment : Environment} {cwd : Place} {store : SettingsStore}
  {m : Machine} {job : LintJob} {paths : List Path} {linted : List LintedFile}
  {unread : Option (Path × FileError)}

/-! ### One file after another -/

/-- What comes of linting files one after another: the files that were linted, and the one that
could not be read if there was one. -/
inductive Lints (r : LintRequest) (job : LintJob) (environment : Environment) (cwd : Place) :
    Machine → List Path → List LintedFile → Option (Path × FileError) → Prop where
  | done (m : Machine) : Lints r job environment cwd m [] [] none
  /-- A file cannot be read when its turn comes. Those after it are not looked at. -/
  | stop {m : Machine} {path : Path} {e : FileError} (paths : List Path)
    (unreadable : readText m.files cwd path = .error e) :
    Lints r job environment cwd m (path :: paths) [] (some (path, e))
  | next {m : Machine} {path : Path} {text : String} {paths : List Path}
    {linted : List LintedFile} {unread : Option (Path × FileError)}
    (readable : readText m.files cwd path = .ok text)
    (rest : Lints r job environment cwd (Linter.lint job environment cwd m (r.target path text)).1
      paths linted unread) :
    Lints r job environment cwd m (path :: paths)
      (⟨path, text, (Linter.lint job environment cwd m (r.target path text)).2⟩ :: linted) unread

theorem exists_lints (r : LintRequest) (job : LintJob) (environment : Environment) (cwd : Place)
    (m : Machine) (paths : List Path) :
    ∃ linted unread, r.Lints job environment cwd m paths linted unread := by
  induction paths generalizing m with
  | nil => exact ⟨[], none, .done m⟩
  | cons path paths ih =>
    cases hread : readText m.files cwd path with
    | error e => exact ⟨[], some (path, e), .stop paths hread⟩
    | ok text =>
      obtain ⟨linted, unread, rest⟩ :=
        ih (Linter.lint job environment cwd m (r.target path text)).1
      exact ⟨_, unread, .next hread rest⟩

/-- What the loop over the files yields once they were linted one after another. -/
theorem Lints.lintAll (lints : r.Lints job environment cwd m paths linted unread) :
    (r.lintAll job environment cwd m paths).2 =
      match unread with
      | none => .ok linted
      | some (path, e) => .error (.unreadable path e) := by
  induction lints with
  | done m => rfl
  | stop paths unreadable => rw [LintRequest.lintAll, unreadable]
  | @next m path text paths linted unread readable rest ih =>
    rw [LintRequest.lintAll, readable]
    dsimp only
    cases unread with
    | none =>
      split
      · next hrest =>
        rw [hrest] at ih
        exact congrArg _ (congrArg _ (Except.ok.inj ih))
      · next hrest =>
        rw [hrest] at ih
        cases ih
    | some stopped =>
      split
      · next hrest =>
        rw [hrest] at ih
        cases ih
      · next hrest =>
        rw [hrest] at ih
        exact ih

theorem lints_of_lintAll (h : (r.lintAll job environment cwd m paths).2.toOption = some linted) :
    r.Lints job environment cwd m paths linted none := by
  obtain ⟨linted', unread, lints⟩ := r.exists_lints job environment cwd m paths
  rw [lints.lintAll] at h
  cases unread with
  | none =>
    obtain rfl := Option.some.inj h
    exact lints
  | some stopped => cases h

/-! ### The whole command -/

/-- The path that is tried for the executable. -/
def tried (r : LintRequest) (environment : Environment) (cwd : Place) (store : SettingsStore)
    (m : Machine) : String :=
  Executable.probePath (Executable.findDefault? environment m.files cwd)
    (r.executable.orElse fun _ => store.current.path) (some (Files.pathOf cwd))

/-- Whether that path is valid, and the machine after it was tried. -/
def validation (r : LintRequest) (environment : Environment) (cwd : Place) (store : SettingsStore)
    (m : Machine) : Machine × Bool :=
  Executable.isValid environment cwd m (r.tried environment cwd store m)

theorem findExecutable_of_valid (valid : (r.validation environment cwd store m).2) :
    Command.findExecutable environment cwd store m r.executable =
      ((r.validation environment cwd store m).1, .ok (r.tried environment cwd store m)) := by
  simp only [validation, tried] at valid ⊢
  simp only [Command.findExecutable, Executable.available, Executable.validate, valid,
    Executable.remembered, ↓reduceIte]

/-- What comes of a request for which an executable is valid. -/
structure Course (r : LintRequest) (environment : Environment) (cwd : Place)
    (store : SettingsStore) (m : Machine) (linted : List LintedFile)
    (unread : Option (Path × FileError)) : Prop where
  valid : (r.validation environment cwd store m).2
  lints : r.Lints (r.job cwd (r.tried environment cwd store m)) environment cwd
    (r.validation environment cwd store m).1 r.files linted unread

theorem exists_course (valid : (r.validation environment cwd store m).2) :
    ∃ linted unread, r.Course environment cwd store m linted unread := by
  obtain ⟨linted, unread, lints⟩ := r.exists_lints (r.job cwd (r.tried environment cwd store m))
    environment cwd (r.validation environment cwd store m).1 r.files
  exact ⟨linted, unread, valid, lints⟩

/-- Without an executable, the command fails. -/
theorem status_of_invalid (invalid : ¬ (r.validation environment cwd store m).2) :
    (r.run environment cwd store m).2.status = 2 := by
  simp only [validation, tried, Bool.not_eq_true] at invalid
  simp only [run, Command.findExecutable, Executable.available, Executable.validate, invalid,
    Executable.remembered]
  rfl

/-- The status after files were linted: failures of the linter come first, and then what was found
on the lines of the files. -/
theorem status_conclude :
    (r.conclude linted).status =
      if ∃ f ∈ linted, f.outcome.isFailure then 2
      else if ∃ f ∈ linted, f.HasFinding then 1 else 0 := by
  have hcount : (linted.filter fun f => f.outcome.isFailure).length = 0 ↔
      ¬ ∃ f ∈ linted, f.outcome.isFailure := by
    simp [List.filter_eq_nil_iff]
  by_cases failed : ∃ f ∈ linted, f.outcome.isFailure
  · rw [if_pos failed, conclude, if_neg (mt hcount.mp (not_not.mpr failed))]
    rfl
  · rw [if_neg failed, conclude, if_pos (hcount.mpr failed)]
    exact (if_neg Bool.false_ne_true).trans (if_congr LintedFile.hasProblems_iff rfl rfl)

/-- **The status after a course**: what went wrong with reading or with the linter comes first, and
then what was found. -/
theorem Course.status (course : r.Course environment cwd store m linted unread) :
    (r.run environment cwd store m).2.status =
      if unread.isSome ∨ ∃ f ∈ linted, f.outcome.isFailure then 2
      else if ∃ f ∈ linted, f.HasFinding then 1 else 0 := by
  have hall := course.lints.lintAll
  rw [run, findExecutable_of_valid course.valid]
  dsimp only
  cases unread with
  | some stopped =>
    split
    · rfl
    · next hrun =>
      rw [hrun] at hall
      cases hall
  | none =>
    split
    · next hrun =>
      rw [hrun] at hall
      cases hall
    · next hrun =>
      rw [hrun] at hall
      obtain rfl := (Except.ok.inj hall).symm
      exact status_conclude.trans (if_congr (by simp) rfl rfl)

/-- If all files were read and linted, the status tells whether anything was found on their
lines. -/
theorem Course.status_of_sound (course : r.Course environment cwd store m linted none)
    (sound : ∀ f ∈ linted, ¬ f.outcome.isFailure) :
    (r.run environment cwd store m).2.status =
      if ∃ f ∈ linted, f.HasFinding then 1 else 0 := by
  have hsound : ¬ ((none : Option (Path × FileError)).isSome ∨
      ∃ f ∈ linted, f.outcome.isFailure) := by
    rintro (stopped | ⟨f, hf, failed⟩)
    · cases stopped
    · exact sound f hf failed
  rw [course.status, if_neg hsound]

theorem exists_sound (h : (r.run environment cwd store m).2.status ≠ 2) :
    ∃ linted, r.Course environment cwd store m linted none ∧
      ∀ f ∈ linted, ¬ f.outcome.isFailure := by
  obtain ⟨linted, unread, course⟩ := exists_course (not_not.mp (mt status_of_invalid h))
  have hsound : ¬ (unread.isSome ∨ ∃ f ∈ linted, f.outcome.isFailure) := by
    intro failed
    rw [course.status, if_pos failed] at h
    exact h rfl
  rw [not_or, Option.not_isSome_iff_eq_none] at hsound
  obtain ⟨rfl, sound⟩ := hsound
  exact ⟨linted, course, fun f hf failed => sound ⟨f, hf, failed⟩⟩

/-- **The status of the command that lints files.**

1. It is 2 if and only if the executable is not valid, or some file cannot be read as text when its
   turn comes, or the linter fails on a file.
2. Otherwise, it is 1 if and only if for some file a problem was reported that lies on one of its
   lines, and 0 if and only if there is no such file.
3. So if, of each file with problems, some problem lies on one of its lines, the status is 1 if and
   only if the outcome is problems for some file, and 0 if and only if all files are clean. -/
theorem status_run (r : LintRequest) (environment : Environment) (cwd : Place)
    (store : SettingsStore) (m : Machine) :
    ((r.run environment cwd store m).2.status = 2 ↔
      ¬ (r.validation environment cwd store m).2 ∨
      ∃ linted unread, r.Course environment cwd store m linted unread ∧
        (unread.isSome ∨ ∃ f ∈ linted, f.outcome.isFailure)) ∧
    ((r.run environment cwd store m).2.status = 1 ↔
      ∃ linted, r.Course environment cwd store m linted none ∧
        (∀ f ∈ linted, ¬ f.outcome.isFailure) ∧ ∃ f ∈ linted, f.HasFinding) ∧
    ((r.run environment cwd store m).2.status = 0 ↔
      ∃ linted, r.Course environment cwd store m linted none ∧
        ∀ f ∈ linted, ¬ f.outcome.isFailure ∧ ¬ f.HasFinding) ∧
    ∀ linted, r.Course environment cwd store m linted none →
      (∀ f ∈ linted, ¬ f.outcome.isFailure) →
      (∀ f ∈ linted, ∀ rs, f.outcome = .problems rs → f.HasFinding) →
        ((r.run environment cwd store m).2.status = 1 ↔
          ∃ f ∈ linted, ∃ rs, f.outcome = .problems rs) ∧
        ((r.run environment cwd store m).2.status = 0 ↔ ∀ f ∈ linted, f.outcome = .clean) := by
  refine ⟨⟨fun h => ?failing, ?fails⟩, ⟨fun h => ?finding, ?finds⟩, ⟨fun h => ?silent, ?rests⟩, ?_⟩
  case failing =>
    by_cases valid : (r.validation environment cwd store m).2
    · obtain ⟨linted, unread, course⟩ := exists_course valid
      refine .inr ⟨linted, unread, course, ?_⟩
      by_contra sound
      rw [course.status, if_neg sound] at h
      split at h <;> cases h
    · exact .inl valid
  case fails =>
    rintro (invalid | ⟨linted, unread, course, failed⟩)
    · exact status_of_invalid invalid
    · rw [course.status, if_pos failed]
  case finding =>
    obtain ⟨linted, course, sound⟩ := exists_sound (by rw [h]; decide)
    rw [course.status_of_sound sound] at h
    exact ⟨linted, course, sound, of_not_not fun hnone => by rw [if_neg hnone] at h; cases h⟩
  case finds =>
    rintro ⟨linted, course, sound, hsome⟩
    rw [course.status_of_sound sound, if_pos hsome]
  case silent =>
    obtain ⟨linted, course, sound⟩ := exists_sound (by rw [h]; decide)
    rw [course.status_of_sound sound] at h
    refine ⟨linted, course, fun f hf => ⟨sound f hf, fun hfound => ?_⟩⟩
    rw [if_pos ⟨f, hf, hfound⟩] at h
    cases h
  case rests =>
    rintro ⟨linted, course, hall⟩
    rw [course.status_of_sound fun f hf => (hall f hf).1, if_neg]
    rintro ⟨f, hf, hfound⟩
    exact (hall f hf).2 hfound
  intro linted course sound near
  have hfound : (∃ f ∈ linted, f.HasFinding) ↔ ∃ f ∈ linted, ∃ rs, f.outcome = .problems rs :=
    ⟨fun ⟨f, hf, hfinding⟩ => ⟨f, hf, hfinding.problems⟩,
      fun ⟨f, hf, rs, hrs⟩ => ⟨f, hf, near f hf rs hrs⟩⟩
  have hclean : (∀ f ∈ linted, f.outcome = .clean) ↔
      ¬ ∃ f ∈ linted, ∃ rs, f.outcome = .problems rs := by
    simp only [not_exists, not_and]
    refine forall₂_congr fun f hf => ?_
    have hf := sound f hf
    cases houtcome : f.outcome with
    | clean | problems => simp
    | toolFailure | transportFailure =>
      rw [houtcome] at hf
      exact absurd rfl hf
  rw [course.status_of_sound sound, hclean, ← hfound]
  by_cases h : ∃ f ∈ linted, f.HasFinding <;> simp [h]

/-! ### One problem -/

/-- A file with one line, and a linter that reports one problem of whatever it is given. -/
def withReporter (line : String) : Machine :=
  .ofFiles ⟨[([Utf8.encode "sh"], .program "sh"),
    ([Utf8.encode "linter"],
      .file (Utf8.encode ("#!/sh\necho '[a:" ++ line ++ ":1] unused' >&2\n")) true),
    ([Utf8.encode "a"], .file (Utf8.encode "x") false)]⟩ 0

/-- The request to lint the file with that linter. -/
def lintOne : LintRequest := ⟨[.ofString "/a"], .text, some "/linter", false, false, 0⟩

/-- A problem on the line that the file has. -/
theorem status_of_near_problem :
    ∃ linted, lintOne.Course [] [] .inMemory (withReporter "1") linted none ∧
      (∃ f ∈ linted, ∃ rs, f.outcome = .problems rs) ∧
      (lintOne.run [] [] .inMemory (withReporter "1")).2.status = 1 := by
  obtain ⟨-, -, -, hnear⟩ := status_run lintOne [] [] .inMemory (withReporter "1")
  have course : lintOne.Course [] [] .inMemory (withReporter "1")
      [⟨.ofString "/a", "x", .problems [⟨1, "unused"⟩]⟩] none :=
    ⟨by decide +kernel, lints_of_lintAll (by decide +kernel)⟩
  have problems : ∃ f ∈ [(⟨.ofString "/a", "x", .problems [⟨1, "unused"⟩]⟩ : LintedFile)],
      ∃ rs, f.outcome = .problems rs := ⟨_, List.mem_singleton_self _, _, rfl⟩
  refine ⟨_, course, problems, ((hnear _ course ?_ ?_).1).mpr problems⟩
  · decide
  · intro f hf rs _
    obtain rfl := List.mem_singleton.mp hf
    decide

/-- A problem on line 9, of a file that has one line: nothing is shown, and the command ends as if
the file were clean. -/
theorem status_of_far_problem :
    ∃ linted, lintOne.Course [] [] .inMemory (withReporter "9") linted none ∧
      (∀ f ∈ linted, ¬ f.outcome.isFailure) ∧ (∃ f ∈ linted, ∃ rs, f.outcome = .problems rs) ∧
      (lintOne.run [] [] .inMemory (withReporter "9")).2.status = 0 := by
  have course : lintOne.Course [] [] .inMemory (withReporter "9")
      [⟨.ofString "/a", "x", .problems [⟨9, "unused"⟩]⟩] none :=
    ⟨by decide +kernel, lints_of_lintAll (by decide +kernel)⟩
  exact ⟨_, course, by decide, ⟨_, List.mem_singleton_self _, _, rfl⟩, by decide +kernel⟩

end LintRequest

end LintBridge
