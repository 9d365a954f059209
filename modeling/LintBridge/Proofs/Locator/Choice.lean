import LintBridge.Proofs.Locator.Parley
import LintBridge.Proofs.Settings.Effective
import LintBridge.Proofs.Text.Cut
import LintBridge.Proofs.Text.Utf8

/-!
# What the user has picked is used

A file that the user has picked and that was found to be valid is put into the settings, and from
there it is read again for every later run, by way of the layers of settings and the rules for what
a setting asks to be run. An absolute path comes back as it was picked, whatever the workspace root
and whatever the search path (`Executable.probePath_of_isAbsolute`). So a call that comes later
tries this path and returns it, without asking, for as long as the settings stay and the path is
valid (`Parley.Steady.usesChoice`).

Two things can come between. If another value in force has a type that is not expected, all settings
are the defaults, and the pick is without effect. And blanks at the end of a setting do not count,
so a path that ends in blanks is not read as it was picked.

## Main definitions

* `Parley.Steady` — moves that leave the settings as they are and a path valid.

## Main results

* `Executable.probePath_of_isAbsolute` — an absolute path is tried as it is written.
* `Locator.choice_takes_effect` — a pick is tried next and returned by all later calls.
* `Locator.choice_without_effect` — a pick that is not.
-/

namespace LintBridge

/-! ### Absolute paths -/

/-- A text whose first byte is a slash begins with a slash. -/
theorem Path.toList_of_isAbsolute {s : String} (h : (Path.ofString s).isAbsolute = true) :
    ∃ cs, s.toList = '/' :: cs := by
  rw [isAbsolute, beq_iff_eq] at h
  cases hs : s.toList with
  | nil =>
    simp only [ofString, Utf8.encode, hs] at h
    cases h
  | cons c cs =>
    obtain ⟨b, bs, hbytes, hhead⟩ := Utf8.decodeHead_encode c []
    simp only [ofString, Utf8.encode, hs, List.flatMap_cons, hbytes, List.cons_append,
      List.head?_cons, Option.some.injEq] at h
    subst h
    rw [Utf8.decodeHead_one (by decide)] at hhead
    obtain rfl := Option.some.inj (Prod.mk.inj hhead).1
    exact ⟨cs, rfl⟩

namespace Text

variable {s : String} {c : Char} {cs : List Char}

/-- A text with no blank at either end is not trimmed. -/
theorem trim_eq_self (hs : s.toList = c :: cs) (first : isBlank c = false)
    (last : ∀ d ∈ s.toList.getLast?, isBlank d = false) : trim s = s := by
  have htrim : trimChars s.toList = s.toList := by
    refine trimChars_eq_iff.mpr ⟨⟨[], [], by simp, nofun, nofun⟩, ?_, last⟩
    rw [hs]
    rintro d ⟨⟩
    exact first
  rw [trim, htrim, String.ofList_toList]

end Text

namespace Executable

variable {path : String}

/-- The blanks that a setting may end in do not count, so they are left out here. -/
theorem configuredPath_of_isAbsolute (absolute : (Path.ofString path).isAbsolute = true)
    (last : ∀ c ∈ path.toList.getLast?, isBlank c = false) (root : Option Path) :
    configuredPath (some path) root = path := by
  obtain ⟨cs, hcs⟩ := Path.toList_of_isAbsolute absolute
  have htrim : Text.trim path = path := Text.trim_eq_self hcs (by decide) last
  have hname : ¬ (path = "" ∨ path = defaultName) := by
    rintro (rfl | rfl)
    · cases hcs
    · cases hcs
  have hrelative : (Path.ofString path).isRelative = false := by simp [Path.isRelative, absolute]
  simp only [configuredPath.eq_def, Option.getD_some, htrim, if_neg hname]
  cases root with
  | none => rfl
  | some dir => simp only [hrelative, Bool.false_eq_true, if_false]

/-- **An absolute path is tried as it is written**, whatever the workspace root and whatever is
found under the default name. -/
theorem probePath_of_isAbsolute (absolute : (Path.ofString path).isAbsolute = true)
    (last : ∀ c ∈ path.toList.getLast?, isBlank c = false) (root found : Option Path) :
    probePath found (some path) root = path := by
  obtain ⟨cs, hcs⟩ := Path.toList_of_isAbsolute absolute
  have hname : path ≠ defaultName := by
    rintro rfl
    cases hcs
  simp only [probePath.eq_def, configuredPath_of_isAbsolute absolute last]
  cases found with
  | none => rfl
  | some file => exact if_neg hname

end Executable

/-! ### Calls that come later -/

namespace Parley

/-- Moves that leave the settings as they are, while a path is valid whenever it is tried. -/
inductive Steady (path : String) (start : Parley) : Parley → Prop where
  | stay : Steady path start start
  | next {p p' : Parley} (move : Move) (past : Steady path start p)
    (valid : ∀ i c, move = .advance i (.verdict false) → p.calls[i]? = some c →
      c.stage.tried? ≠ some path)
    (legal : p.step? move = some p') (settled : p'.locator.settings = p.locator.settings) :
    Steady path start p'

/-- A call that is going to return a path without asking. -/
def UsesChoice (path : String) (s : LocateStage) : Prop :=
  s = .starting ∨ s = .trying path ∨ s = .done (some path)

variable {path : String} {start p p' : Parley}

/-- **One step of a call** that is going to return a path, if the path is what the settings make the
call try and is valid. -/
theorem UsesChoice.step {l l' : Locator} {caller : Nat} {root : Option Path} {s s' : LocateStage}
    {a : Answer} {shown : List Prompt} (h : UsesChoice path s)
    (hprobe : ∀ root found, l.probePath root found = path)
    (valid : a = .verdict false → s.tried? ≠ some path)
    (step : LocateStep l caller root s a l' s' shown) : UsesChoice path s' := by
  rcases h with rfl | rfl | rfl
  · cases step with
    | start found => exact .inr (.inl (by rw [hprobe]))
  · cases step with
    | hit => exact .inr (.inr rfl)
    | miss => exact absurd rfl (valid rfl)
  · cases step

/-- **Every call that comes later returns the path**, and asks nothing on the way there. -/
theorem Steady.usesChoice (past : Steady path start p)
    (hprobe : ∀ root found, start.locator.probePath root found = path) :
    p.locator.settings = start.locator.settings ∧ start.calls.length ≤ p.calls.length ∧
      ∀ j c, start.calls.length ≤ j → p.calls[j]? = some c → UsesChoice path c.stage := by
  induction past with
  | stay =>
    refine ⟨rfl, Nat.le_refl _, fun j c hj hc => ?_⟩
    rw [List.getElem?_eq_none hj] at hc
    cases hc
  | @next p p' move past valid legal settled ih =>
    obtain ⟨hsettings, hlength, hcalls⟩ := ih
    have hprobe' : ∀ root found, p.locator.probePath root found = path := fun root found => by
      rw [Locator.probePath, hsettings]
      exact hprobe root found
    cases move with
    | arrive root =>
      cases legal
      refine ⟨hsettings, by simp; omega, fun j c hj hc => ?_⟩
      rcases call_of_append hc with hc | ⟨-, rfl⟩
      · exact hcalls j c hj hc
      · exact .inl rfl
    | advance i a =>
      obtain ⟨d, l, s, shown, hd, step, rfl⟩ := exists_of_step? legal
      refine ⟨settled.trans hsettings, by simpa using hlength, fun j c hj hc => ?_⟩
      rcases call_of_set hc with ⟨rfl, rfl⟩ | ⟨-, hc⟩
      · exact (hcalls i d hj hd).step hprobe' (fun ha => valid i d (by rw [ha]) hd) step
      · exact hcalls j c hj hc

end Parley

/-! ### The choice -/

namespace Locator

variable {l chosen : Locator} {caller : Nat} {root : Option Path} {s : LocateStage} {a : Answer}
  {path : String} {shown : List Prompt}

/-- A call is about to return what the user has picked only once this was stored. -/
theorem withPath_of_counting
    (h : l.step? caller root s a = some (chosen, .counting (some path), shown)) :
    chosen = { l with settings := l.settings.withPath path } := by
  cases step?_eq_some_iff.mp h with
  | store => rfl

/-- **A pick takes effect.** Once a call is about to return what the user has picked, the settings
make every trial use the path that was picked, if the path is absolute and does not end in blanks
and if the other values in force have the expected types. Whatever the workspace root and whatever
the search path, the next trial starts this program and returns its path if it is valid. And every
call that comes later, in whatever order the steps are taken, is about to try this path, is trying
it, or has returned it, for as long as the settings stay and the path is valid: none of them
asks. -/
theorem choice_takes_effect
    (returns : l.step? caller root s a = some (chosen, .counting (some path), shown))
    (hglobal : l.settings.globalLayer.Ascending) (hclient : l.settings.clientLayer.Ascending)
    (fit : Settings.OthersFit l.settings.globalLayer l.settings.clientLayer)
    (absolute : (Path.ofString path).isAbsolute = true)
    (last : ∀ c ∈ path.toList.getLast?, isBlank c = false) :
    (∀ (next : Nat) (root found : Option Path),
      chosen.step? next root .starting (.found found) = some (chosen, .trying path, []) ∧
      chosen.step? next root (.trying path) (.verdict true) =
        some (chosen.remember path true, .done (some path), [])) ∧
    (∀ (environment : Environment) (cwd : Place) (m m' : Machine) (root : Option Path),
      Executable.isValid environment cwd m path = (m', true) →
        Executable.available environment cwd m chosen.settings.current.path root =
          (m', some path)) ∧
    ∀ p p' : Parley, p.locator = chosen → p.Steady path p' →
      ∀ j c, p.calls.length ≤ j → p'.calls[j]? = some c →
        c.stage = .starting ∨ c.stage = .trying path ∨ c.stage = .done (some path) := by
  obtain rfl := withPath_of_counting returns
  obtain ⟨cs, hcs⟩ := Path.toList_of_isAbsolute absolute
  have hblank : Text.isBlankText path = false := by
    rw [Text.isBlankText, hcs]
    rfl
  have hpath := SettingsStore.current_withPath hglobal hclient fit hblank
  have hprobe (root found : Option Path) :
      Executable.probePath found (l.settings.withPath path).current.path root = path := by
    rw [hpath]
    exact Executable.probePath_of_isAbsolute absolute last root found
  refine ⟨fun next root found => ⟨?_, rfl⟩, ?_, ?_⟩
  · simp only [step?, probePath, hprobe]
  · intro environment cwd m m' root hvalid
    rw [Executable.available, hprobe, Executable.validate, hvalid]
    rfl
  · rintro p p' hp past j c hj hc
    refine (past.usesChoice fun root found => ?_).2.2 j c hj hc
    rw [hp]
    exact hprobe root found

/-- A store with a key of its own in the file, and a limit and another executable from the
client. -/
def settled : SettingsStore :=
  ⟨none, [("own", .null), ("path", .str "a")], [("path", .str "b"), ("timeoutMs", .int 5)]⟩

theorem settled_takes_effect : ∃ chosen,
    (ofSettings settled).step? 0 none (.storing "/t") .nothing =
      some (chosen, .counting (some "/t"), []) ∧
    ∀ (root found : Option Path),
      chosen.step? 1 root .starting (.found found) = some (chosen, .trying "/t", []) := by
  have fit : Settings.OthersFit settled.globalLayer settled.clientLayer := by
    constructor <;> decide +kernel
  have hglobal : settled.globalLayer.Ascending := by
    unfold Fields.Ascending
    decide +kernel
  have hclient : settled.clientLayer.Ascending := by
    unfold Fields.Ascending
    decide +kernel
  have returns : (ofSettings settled).step? 0 none (.storing "/t") .nothing =
      some ({ ofSettings settled with settings := settled.withPath "/t" },
        .counting (some "/t"), []) := rfl
  have absolute : (Path.ofString "/t").isAbsolute = true := by decide +kernel
  have last : ∀ c ∈ "/t".toList.getLast?, isBlank c = false := by
    intro c hc
    have hlast : "/t".toList.getLast? = some 't' := by decide +kernel
    obtain rfl := Option.some.inj (hlast ▸ hc)
    decide
  refine ⟨_, returns, fun root found => ?_⟩
  exact ((choice_takes_effect returns hglobal hclient fit absolute last).1 1 root found).1

/-- A store in which the client gives the limit as a text. -/
def misfit : SettingsStore := ⟨none, [], [("timeoutMs", .str "soon")]⟩

/-- A call for which the user picks a valid file, and the beginning of the next call. -/
def pickingMoves (path : String) : List Parley.Move :=
  .arrive none :: Parley.toWaiting 0 ++
    [.nothing, .nothing, .found none, .verdict false, .nothing, .choice (some Prompt.findAction),
      .picked (some path) true, .verdict true, .nothing, .nothing].map (.advance 0) ++
    [.arrive none, .advance 1 (.found none)]

/-- The stages that the two calls are at then. -/
def stagesAfterPick (settings : SettingsStore) (path : String) : Option (List LocateStage) :=
  ((Parley.ofLocator (ofSettings settings)).follow (pickingMoves path)).map fun p =>
    p.calls.map fun c => c.stage

/-- **A pick without effect.** With a limit that is no number all settings are the defaults, so the
next call tries the default name and not the path that the first one has returned; and a pick that
ends in a blank is tried without it. -/
theorem choice_without_effect :
    stagesAfterPick misfit "/t" = some [.done (some "/t"), .trying "protolint"] ∧
      stagesAfterPick .inMemory "/t " = some [.done (some "/t "), .trying "/t"] := by
  constructor
  · decide +kernel
  · decide +kernel

end Locator

end LintBridge
