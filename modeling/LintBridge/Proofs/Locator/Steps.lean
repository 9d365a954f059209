import LintBridge.Locator.Basic

/-!
# The steps of a call

The steps on the way to an executable, one case each (`LocateStep`). A step is possible if the
answer is of the kind that the stage waits for and, for a call that waits for its turn, if the turn
is free. And what is remembered changes only when a trial ends.

## Main definitions

* `LocateStep` — the steps of a call.
* `LocateStage.expects` — the answers that a stage waits for.
* `LocateStage.left?` — what is remembered after a trial.

## Main results

* `Locator.step?_eq_some_iff` — these are all the steps.
* `Locator.isSome_step?_iff` — when a step is possible.
* `LocateStep.cache` — what is remembered after a step.
-/

namespace LintBridge

/-- The steps of a call. -/
inductive LocateStep (l : Locator) (caller : Nat) (root : Option Path) :
    LocateStage → Answer → Locator → LocateStage → List Prompt → Prop where
  /-- The path for the settings is going to be tried. -/
  | start (file : Option Path) :
    LocateStep l caller root .starting (.found file) l (.trying (l.probePath root file)) []
  /-- It is valid. -/
  | hit (path : String) : LocateStep l caller root (.trying path) (.verdict true)
      (l.remember path true) (.done (some path)) []
  /-- It is not valid. -/
  | miss (path : String) : LocateStep l caller root (.trying path) (.verdict false)
      (l.remember path false) .missed []
  /-- The number of prompts is read. -/
  | read : LocateStep l caller root .missed .nothing l (.waiting l.promptsShown) []
  /-- The turn is free, and the call takes it. -/
  | enter (seen : Nat) (free : l.asker = none) : LocateStep l caller root (.waiting seen) .nothing
      { l with asker := some caller } (.entered seen) []
  /-- The number of prompts is still the same. -/
  | stay : LocateStep l caller root (.entered l.promptsShown) .nothing l .returning []
  /-- Someone else has asked meanwhile, and the call returns what is remembered. -/
  | leave (seen : Nat) (changed : l.promptsShown ≠ seen) : LocateStep l caller root (.entered seen)
      .nothing l.release (.done l.cache) []
  /-- The path for the settings is going to be tried once more. -/
  | restart (file : Option Path) :
    LocateStep l caller root .returning (.found file) l (.retrying (l.probePath root file)) []
  /-- It is valid by now. -/
  | hitAgain (path : String) : LocateStep l caller root (.retrying path) (.verdict true)
      (l.remember path true).release (.done (some path)) []
  /-- It is still not valid. -/
  | missAgain (path : String) : LocateStep l caller root (.retrying path) (.verdict false)
      (l.remember path false) .warning []
  /-- The warning is shown. -/
  | warn : LocateStep l caller root .warning .nothing l .warned [.warning]
  /-- The user wants to find the file. -/
  | find : LocateStep l caller root .warned (.choice (some Prompt.findAction)) l .picking [.picker]
  /-- The user wants to download the linter. -/
  | download :
    LocateStep l caller root .warned (.choice (some Prompt.downloadAction)) l .browsing [.page]
  /-- The user wants neither. -/
  | dismiss (title : Option String) (notFind : title ≠ some Prompt.findAction)
      (notDownload : title ≠ some Prompt.downloadAction) :
    LocateStep l caller root .warned (.choice title) l (.counting none) []
  /-- The user has picked a file. -/
  | pick (path : String) :
    LocateStep l caller root .picking (.picked (some path) true) l (.validating path) []
  /-- The user has picked nothing, or something else than a file. -/
  | pickNone (path : Option String) (isFile : Bool) (none : path = none ∨ isFile = false) :
    LocateStep l caller root .picking (.picked path isFile) l .regretting []
  /-- The file that was picked is valid. -/
  | accept (path : String) : LocateStep l caller root (.validating path) (.verdict true)
      (l.remember path true) (.storing path) []
  /-- It is not valid. -/
  | reject (path : String) : LocateStep l caller root (.validating path) (.verdict false)
      (l.remember path false) .regretting []
  /-- The file that was picked is stored in the settings. -/
  | store (path : String) : LocateStep l caller root (.storing path) .nothing
      { l with settings := l.settings.withPath path } (.counting (some path)) []
  /-- The user is told that the file cannot be used. -/
  | regret : LocateStep l caller root .regretting .nothing l (.counting none) [.regret]
  /-- The page of the linter is open. -/
  | browse : LocateStep l caller root .browsing .nothing l (.counting none) []
  /-- The prompt is counted, and the turn ends. -/
  | count (result : Option String) : LocateStep l caller root (.counting result) .nothing
      { l with promptsShown := l.promptsShown + 1 }.release (.done result) []

variable {l l' : Locator} {caller : Nat} {root : Option Path} {s s' : LocateStage} {a : Answer}
  {prompts : List Prompt}

private theorem LocateStep.of_step? (hs : l.step? caller root s a = some (l', s', prompts)) :
    LocateStep l caller root s a l' s' prompts := by
  cases s <;> cases a <;> simp only [Locator.step?, reduceCtorEq, Option.some.injEq,
    Prod.mk.injEq] at hs
  case trying.verdict path isValid | validating.verdict path isValid =>
    obtain ⟨rfl, rfl, rfl⟩ := hs
    cases isValid <;> constructor
  case waiting.nothing seen =>
    split at hs
    · next free =>
      cases hs
      exact .enter seen free
    · cases hs
  case entered.nothing seen =>
    split at hs
    · next same =>
      cases hs
      exact same ▸ .stay
    · next changed =>
      cases hs
      exact .leave seen changed
  case retrying.verdict path isValid =>
    cases isValid <;> cases hs <;> constructor
  case warned.choice title =>
    split at hs
    · next find =>
      cases hs
      exact find ▸ .find
    · next notFind =>
      split at hs
      · next download =>
        cases hs
        exact download ▸ .download
      · next notDownload =>
        cases hs
        exact .dismiss title notFind notDownload
  case picking.picked path isFile =>
    cases path <;> cases isFile <;> cases hs
    · exact .pickNone none false (.inl rfl)
    · exact .pickNone none true (.inl rfl)
    · exact .pickNone _ false (.inr rfl)
    · exact .pick _
  all_goals
    obtain ⟨rfl, rfl, rfl⟩ := hs
    constructor

/-- **These are all the steps of a call.** -/
theorem Locator.step?_eq_some_iff : l.step? caller root s a = some (l', s', prompts) ↔
    LocateStep l caller root s a l' s' prompts := by
  refine ⟨.of_step?, fun step => ?_⟩
  cases step with
  | enter seen free => exact if_pos free
  | stay => exact if_pos rfl
  | leave seen changed => exact if_neg changed
  | dismiss title notFind notDownload =>
    rw [Locator.step?, if_neg notFind, if_neg notDownload]
  | download =>
    have other : some Prompt.downloadAction ≠ some Prompt.findAction := by decide
    rw [Locator.step?, if_neg other, if_pos rfl]
  | pickNone path isFile none =>
    rcases none with rfl | rfl
    · rfl
    · cases path <;> rfl
  | _ => rfl

/-! ### When a step is possible -/

/-- The answer is of the kind that the stage waits for. -/
def LocateStage.expects : LocateStage → Answer → Bool
  | .starting, .found _ | .returning, .found _ => true
  | .trying _, .verdict _ | .retrying _, .verdict _ | .validating _, .verdict _ => true
  | .warned, .choice _ => true
  | .picking, .picked _ _ => true
  | .missed, .nothing | .waiting _, .nothing | .entered _, .nothing | .warning, .nothing
  | .storing _, .nothing | .regretting, .nothing | .browsing, .nothing | .counting _, .nothing =>
    true
  | _, _ => false

/-- Every stage but the last one waits for some answer. -/
theorem LocateStage.exists_expects (unfinished : ∀ result, s ≠ .done result) :
    ∃ a, s.expects a = true := by
  cases s with
  | starting | returning => exact ⟨.found none, rfl⟩
  | trying | retrying | validating => exact ⟨.verdict true, rfl⟩
  | warned => exact ⟨.choice none, rfl⟩
  | picking => exact ⟨.picked none false, rfl⟩
  | missed | waiting | entered | warning | storing | regretting | browsing | counting =>
    exact ⟨.nothing, rfl⟩
  | done result => exact absurd rfl (unfinished result)

/-- **When a step is possible.** The answer has to be one that the stage waits for, and for a call
that waits for its turn the turn has to be free. -/
theorem Locator.isSome_step?_iff : (l.step? caller root s a).isSome ↔
    s.expects a = true ∧ ((∃ seen, s = .waiting seen) → l.asker = none) := by
  constructor
  · intro possible
    obtain ⟨⟨l', s', prompts⟩, hs⟩ := Option.isSome_iff_exists.mp possible
    have step := Locator.step?_eq_some_iff.mp hs
    constructor
    · cases step <;> rfl
    · rintro ⟨seen, rfl⟩
      cases step with
      | enter _ free => exact free
  · rintro ⟨expected, free⟩
    cases s <;> cases a
    all_goals first
      | exact absurd expected Bool.false_ne_true
      | rfl
      | simp only [Locator.step?]
    case mpr.waiting.nothing seen =>
      rw [if_pos (free ⟨seen, rfl⟩)]
      rfl
    case mpr.entered.nothing | mpr.picking.picked => split <;> rfl
    case mpr.retrying.verdict path isValid => cases isValid <;> rfl
    case mpr.warned.choice title =>
      split
      · rfl
      · split <;> rfl

/-! ### What is remembered -/

/-- The path that is tried at a stage. -/
def LocateStage.tried? : LocateStage → Option String
  | .trying path | .retrying path | .validating path => some path
  | _ => none

/-- What is remembered after the answer to a stage at which a path is tried. -/
def LocateStage.left? (s : LocateStage) : Answer → Option (Option String)
  | .verdict isValid => s.tried?.map fun path => Executable.remembered path isValid
  | _ => none

/-- **What is remembered changes only when a trial ends.** -/
theorem LocateStep.cache (step : LocateStep l caller root s a l' s' prompts) :
    l'.cache = (s.left? a).getD l.cache := by
  cases step <;> rfl

end LintBridge
