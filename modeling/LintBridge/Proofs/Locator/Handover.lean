import LintBridge.Proofs.Locator.Asking

/-!
# What a call makes of the prompt of another one

A call that had to wait while another one asked does not ask again. It returns what is remembered
when its turn comes. The call that asked has left its result there: the file that the user picked if
it was valid, and nothing otherwise. But every trial of every other call leaves its own result at
the same place, and calls may try while others ask and wait. So what is handed over is the result of
the trial that ended last, whosever it was. It is the result of the prompt if that was the trial of
the call that asked, or if it happened to end alike.

## Main definitions

* `Parley.Act`, `Parley.Past` — the steps that calls have taken, and the calls after them.
* `Parley.lastAsker?` — the call that has asked last.
* `Parley.lastTrial?`, `Parley.lastTrialOf?` — the trial that ended last, of any call and of one.
* `LocateStage.soFar` — what a call that asks is going to return.
* `Parley.Decides` — the trial that the result of a prompt comes from.
* `Parley.Standing`, `Parley.Recorded` — what is known of one call, and of all of them.

## Main results

* `Parley.Standing.step`, `Parley.Standing.other` — what one step preserves.
* `Parley.Past.handover` — what a call returns that has waited while another one asked.
* `Parley.bystander_handed_over` — this need not be the result of the prompt.
-/

namespace LintBridge

/-! ### Calls that ask -/

section Asking

variable {l l' : Locator} {k : Nat} {root : Option Path} {s s' : LocateStage} {a : Answer}
  {prompts : List Prompt}

/-- What a call that asks is going to return, unless it tries a file that was picked. -/
def LocateStage.soFar : LocateStage → Option String
  | .storing path => some path
  | .counting result | .done result => result
  | _ => none

/-- A call asks from the warning on. -/
theorem LocateStep.of_asking (step : LocateStep l k root s a l' s' prompts)
    (asks : s'.phase = .asking) : s = .warning ∨ s.phase = .asking := by
  cases step with
  | warn => exact .inl rfl
  | find | download | dismiss | pick | pickNone | accept | reject | store | regret | browse =>
    exact .inr rfl
  | _ => cases asks

/-- A call asks until it returns. -/
theorem LocateStep.asking (step : LocateStep l k root s a l' s' prompts)
    (asks : s.phase = .asking) : s'.phase = .asking ∨ ∃ result, s' = .done result := by
  cases step with
  | count result => exact .inr ⟨result, rfl⟩
  | find | download | dismiss | pick | pickNone | accept | reject | store | regret | browse =>
    exact .inl rfl
  | _ => cases asks

theorem LocateStep.promptsShown_le (step : LocateStep l k root s a l' s' prompts) :
    l.promptsShown ≤ l'.promptsShown := by
  cases step with
  | count => exact Nat.le_succ _
  | _ => exact Nat.le_refl _

theorem LocateStep.promptsShown_eq (step : LocateStep l k root s a l' s' prompts)
    (rests : s.phase ≠ .asking) : l'.promptsShown = l.promptsShown := by
  cases step with
  | count => exact absurd rfl rests
  | _ => rfl

end Asking

namespace Parley

/-! ### Steps that were taken -/

/-- A step that a call has taken: the stage that it was at, and the answer that it got. -/
structure Act where
  call : Nat
  stage : LocateStage
  answer : Answer
  deriving DecidableEq

/-- What was remembered after the step, if it was the end of a trial. -/
def Act.left? (a : Act) : Option (Option String) := a.stage.left? a.answer

/-- The calls come to this by these steps, made in any order and listed from the last to the first.
Calls may come in between. -/
inductive Past (start : Parley) : List Act → Parley → Prop where
  | stay : Past start [] start
  | arrive {acts : List Act} {p p' : Parley} (root : Option Path) (past : Past start acts p)
    (legal : p.step? (.arrive root) = some p') : Past start acts p'
  | act {acts : List Act} {p p' : Parley} (i : Nat) (c : Call) (a : Answer)
    (past : Past start acts p) (known : p.calls[i]? = some c)
    (legal : p.step? (.advance i a) = some p') : Past start (⟨i, c.stage, a⟩ :: acts) p'

/-- The call that has shown a warning last. -/
def lastAsker? (acts : List Act) : Option Nat :=
  (acts.find? fun a => a.stage = .warning).map Act.call

/-- The trial that ended last. -/
def lastTrial? (acts : List Act) : Option Act := acts.find? fun a => a.left?.isSome

/-- The trial of a call that ended last. -/
def lastTrialOf? (k : Nat) (acts : List Act) : Option Act :=
  acts.find? fun a => a.call = k ∧ a.left?.isSome

/-- The trial that the result of the prompt of a call comes from: either the configured executable
was not valid and no file was picked, or a file was picked and tried. -/
inductive Decides (k : Nat) : Act → Option String → Prop where
  | missed (path : String) : Decides k ⟨k, .retrying path, .verdict false⟩ none
  | rejected (path : String) : Decides k ⟨k, .validating path, .verdict false⟩ none
  | accepted (path : String) : Decides k ⟨k, .validating path, .verdict true⟩ (some path)

variable {acts : List Act} {act own : Act} {p p' : Parley} {j k n : Nat} {r : Option String}

theorem Decides.left? (decides : Decides k own r) : own.left? = some r := by
  cases decides <;> rfl

theorem Decides.eq_some_iff (decides : Decides k own r) (path : String) :
    r = some path ↔ own = ⟨k, .validating path, .verdict true⟩ := by
  cases decides <;> simp

theorem lastAsker?_cons : lastAsker? (act :: acts) =
    if act.stage = .warning then some act.call else lastAsker? acts := by
  unfold lastAsker?
  by_cases warns : act.stage = .warning <;> simp [warns]

theorem lastTrial?_cons : lastTrial? (act :: acts) =
    if act.left?.isSome then some act else lastTrial? acts := by
  unfold lastTrial?
  cases h : act.left?.isSome <;> simp [h]

theorem lastTrialOf?_cons_of_ne (other : act.call ≠ k) :
    lastTrialOf? k (act :: acts) = lastTrialOf? k acts := by
  simp [lastTrialOf?, other]

theorem lastTrialOf?_cons_self (act : Act) : lastTrialOf? act.call (act :: acts) =
    if act.left?.isSome then some act else lastTrialOf? act.call acts := by
  unfold lastTrialOf?
  cases h : act.left?.isSome <;> simp [h]

/-! ### What is known of a call -/

/-- What is known of a call by the steps that were taken, if `n` prompts were counted in the
beginning. -/
structure Standing (n : Nat) (l : Locator) (acts : List Act) (j : Nat) (s : LocateStage) :
    Prop where
  /-- What it has read. -/
  read : ∀ seen, s = .waiting seen ∨ s = .entered seen → n ≤ seen ∧ seen ≤ l.promptsShown
  asks : s.phase = .asking → (lastAsker? acts).isSome
  /-- If nobody has asked after it, it still asks or has returned. -/
  asked : lastAsker? acts = some j → s.phase = .asking ∨ ∃ result, s = .done result
  /-- What it is going to return comes from its last trial. -/
  decided : s = .warning ∨ lastAsker? acts = some j →
    ∃ own, lastTrialOf? j acts = some own ∧ Decides j own s.soFar
  picked : ∀ path, s = .validating path → ⟨j, .picking, .picked (some path) true⟩ ∈ acts

section Step

variable {l l' : Locator} {root : Option Path} {s s' : LocateStage} {a : Answer}
  {prompts : List Prompt}

/-- Only a trial of the call itself changes what it is going to return while it asks. -/
theorem Decides.of_step (step : LocateStep l j root s a l' s' prompts)
    (asks : s.phase = .asking) :
    s.left? a = none ∧ s'.soFar = s.soFar ∨ Decides j ⟨j, s, a⟩ s'.soFar := by
  cases step with
  | accept path => exact .inr (.accepted path)
  | reject path => exact .inr (.rejected path)
  | find | download | dismiss | pick | pickNone | store | regret | browse | count =>
    exact .inl ⟨rfl, rfl⟩
  | _ => cases asks

theorem isSome_lastAsker?_cons (h : (lastAsker? acts).isSome) :
    (lastAsker? (act :: acts)).isSome := by
  rw [lastAsker?_cons]
  split
  · rfl
  · exact h

/-- A call keeps its standing while another one takes a step. -/
theorem Standing.other (standing : Standing n l acts j s) (other : act.call ≠ j)
    (le : l.promptsShown ≤ l'.promptsShown) : Standing n l' (act :: acts) j s := by
  have still (h : lastAsker? (act :: acts) = some j) : lastAsker? acts = some j := by
    rw [lastAsker?_cons] at h
    split at h
    · exact absurd (Option.some.inj h) other
    · exact h
  constructor
  · intro seen h
    obtain ⟨ge, hle⟩ := standing.read seen h
    exact ⟨ge, Nat.le_trans hle le⟩
  · exact fun h => isSome_lastAsker?_cons (standing.asks h)
  · exact fun h => standing.asked (still h)
  · rw [lastTrialOf?_cons_of_ne other]
    exact fun h => standing.decided (h.imp_right still)
  · exact fun path h => List.mem_cons_of_mem _ (standing.picked path h)

/-- The result of a call that asks comes from its last trial also after a step of its own. -/
private theorem Standing.decided_step (standing : Standing n l acts j s)
    (step : LocateStep l j root s a l' s' prompts)
    (asks : s' = .warning ∨ lastAsker? (⟨j, s, a⟩ :: acts) = some j) :
    ∃ own, lastTrialOf? j (⟨j, s, a⟩ :: acts) = some own ∧ Decides j own s'.soFar := by
  have hlast : lastTrialOf? j (⟨j, s, a⟩ :: acts) =
      if (s.left? a).isSome then some ⟨j, s, a⟩ else lastTrialOf? j acts :=
    lastTrialOf?_cons_self ⟨j, s, a⟩
  have now {r : Option String} (decides : Decides j ⟨j, s, a⟩ r) :
      ∃ own, lastTrialOf? j (⟨j, s, a⟩ :: acts) = some own ∧ Decides j own r := by
    refine ⟨_, hlast.trans (if_pos ?_), decides⟩
    exact Option.isSome_of_eq_some decides.left?
  rcases asks with rfl | asks
  · cases step with
    | missAgain path => exact now (.missed path)
  · rw [lastAsker?_cons] at asks
    split at asks
    · next warns =>
      obtain rfl : s = .warning := warns
      cases step with
      | warn =>
        rw [hlast]
        exact standing.decided (.inl rfl)
    · have asking : s.phase = .asking := by
        rcases standing.asked asks with asking | ⟨result, rfl⟩
        · exact asking
        · cases step
      rcases Decides.of_step step asking with ⟨noTrial, same⟩ | decides
      · rw [hlast, if_neg (by simp [noTrial]), same]
        exact standing.decided (.inr asks)
      · exact now decides

/-- What is known of a call after a step of its own. -/
theorem Standing.step (standing : Standing n l acts j s) (ge : n ≤ l.promptsShown)
    (step : LocateStep l j root s a l' s' prompts) :
    Standing n l' (⟨j, s, a⟩ :: acts) j s' := by
  refine ⟨?_, ?_, ?_, standing.decided_step step, ?_⟩
  · rintro seen (rfl | rfl)
    · cases step with
      | read => exact ⟨ge, Nat.le_refl _⟩
    · cases step with
      | enter _ free => exact standing.read seen (.inl rfl)
  · intro asking
    rcases step.of_asking asking with rfl | asks
    · rfl
    · exact isSome_lastAsker?_cons (standing.asks asks)
  · intro asked
    rw [lastAsker?_cons] at asked
    split at asked
    · next warns =>
      obtain rfl : s = .warning := warns
      cases step with
      | warn => exact .inl rfl
    · rcases standing.asked asked with asking | ⟨result, rfl⟩
      · exact step.asking asking
      · cases step
  · rintro path rfl
    cases step with
    | pick path => exact List.mem_cons_self

end Step

/-! ### The invariant -/

theorem exists_of_lastAsker? (h : lastAsker? acts = some k) :
    ∃ act ∈ acts, act.call = k ∧ act.stage = .warning := by
  obtain ⟨act, hact, hcall⟩ := Option.map_eq_some_iff.mp h
  exact ⟨act, List.mem_of_find?_eq_some hact, hcall, by simpa using List.find?_some hact⟩

theorem exists_lastTrial? (h : lastTrialOf? k acts = some own) :
    ∃ last left, lastTrial? acts = some last ∧ last.left? = some left := by
  have hown : own.call = k ∧ own.left?.isSome := by simpa using List.find?_some h
  have some : (lastTrial? acts).isSome :=
    List.find?_isSome.mpr ⟨own, List.mem_of_find?_eq_some h, hown.2⟩
  obtain ⟨last, hlast⟩ := Option.isSome_iff_exists.mp some
  have trial : last.left?.isSome := by simpa using List.find?_some hlast
  obtain ⟨left, hleft⟩ := Option.isSome_iff_exists.mp trial
  exact ⟨last, left, hlast, hleft⟩

/-- What is known of the calls by the steps that were taken. -/
structure Recorded (start : Locator) (acts : List Act) (p : Parley) : Prop where
  turn : p.InTurn
  cache : p.locator.cache = ((lastTrial? acts).bind Act.left?).getD start.cache
  ge : start.promptsShown ≤ p.locator.promptsShown
  asked : start.promptsShown < p.locator.promptsShown → (lastAsker? acts).isSome
  standing : ∀ j c, p.calls[j]? = some c →
    Standing start.promptsShown p.locator acts j c.stage
  come : ∀ act ∈ acts, act.call < p.calls.length
  picked : ∀ act ∈ acts, ∀ path, act.stage = .validating path →
    ⟨act.call, .picking, .picked (some path) true⟩ ∈ acts

theorem recorded_ofLocator (l : Locator) : Recorded l [] (ofLocator l) := by
  have hcalls : (ofLocator l).calls = [] := rfl
  have hlocator : (ofLocator l).locator = l := rfl
  constructor
  · exact (fair_ofLocator l).turn
  · rfl
  · exact Nat.le_refl _
  · exact fun h => absurd h (Nat.lt_irrefl _)
  all_goals simp [hcalls]

theorem Recorded.arrive {start : Locator} (recorded : Recorded start acts p) {root : Option Path}
    (legal : p.step? (.arrive root) = some p') : Recorded start acts p' := by
  have turn := recorded.turn.arrive legal
  obtain rfl := Option.some.inj legal
  refine ⟨turn, recorded.cache, recorded.ge, recorded.asked, ?_, ?_, recorded.picked⟩
  · intro j c hc
    rcases call_of_append hc with hc | ⟨rfl, rfl⟩
    · exact recorded.standing j c hc
    · -- Nobody has asked who has not come.
      have silent : lastAsker? acts ≠ some p.calls.length := by
        intro h
        obtain ⟨act, hact, hcall, -⟩ := exists_of_lastAsker? h
        exact Nat.ne_of_lt (recorded.come act hact) hcall
      constructor
      · rintro seen (h | h) <;> cases h
      · nofun
      · exact fun h => absurd h silent
      · rintro (h | h)
        · cases h
        · exact absurd h silent
      · nofun
  · intro act hact
    rw [List.length_append]
    exact Nat.lt_add_right _ (recorded.come act hact)

theorem Recorded.advance {start : Locator} (recorded : Recorded start acts p) {i : Nat} {c : Call}
    {a : Answer} (known : p.calls[i]? = some c) (legal : p.step? (.advance i a) = some p') :
    Recorded start (⟨i, c.stage, a⟩ :: acts) p' := by
  obtain ⟨c', l, s, prompts, hc, step, rfl⟩ := exists_of_step? legal
  obtain rfl := Option.some.inj (known.symm.trans hc)
  have hphase : p.phase? i = some c.stage.phase := by rw [phase?, hc, Option.map_some]
  refine ⟨recorded.turn.step hphase (phase?_set hc) step.turn, ?_, ?_, ?_, ?_, ?_, ?_⟩
  · dsimp only
    rw [step.cache, recorded.cache, lastTrial?_cons]
    cases h : c.stage.left? a with
    | none => simp [Act.left?, h]
    | some left => simp [Act.left?, h]
  · exact Nat.le_trans recorded.ge (step.promptsShown_le)
  · intro more
    refine isSome_lastAsker?_cons ?_
    by_cases asks : c.stage.phase = .asking
    · exact (recorded.standing i c hc).asks asks
    · exact recorded.asked (step.promptsShown_eq asks ▸ more)
  · intro j d hd
    rw [List.getElem?_set] at hd
    split at hd
    · next hij =>
      subst hij
      split at hd
      · cases hd
        exact (recorded.standing i c hc).step recorded.ge step
      · cases hd
    · next hij => exact (recorded.standing j d hd).other hij (step.promptsShown_le)
  · have hlt : i < p.calls.length := (List.getElem?_eq_some_iff.mp hc).1
    intro act hact
    rw [List.length_set]
    rcases List.mem_cons.mp hact with rfl | hact
    · exact hlt
    · exact recorded.come act hact
  · intro act hact path stage
    refine List.mem_cons_of_mem _ ?_
    rcases List.mem_cons.mp hact with rfl | hact
    · exact (recorded.standing i c hc).picked path stage
    · exact recorded.picked act hact path stage

/-- What is known of the calls, whatever the order of their steps. -/
theorem Past.recorded {l : Locator} (past : Past (ofLocator l) acts p) : Recorded l acts p := by
  induction past with
  | stay => exact recorded_ofLocator l
  | arrive root _ legal ih => exact ih.arrive legal
  | act i c a _ known legal ih => exact ih.advance known legal

/-! ### What is handed over -/

/-- **What is handed over.** Whatever the number of calls, the answers and the order of steps: if a
call finds in its turn that the number of prompts has changed, there was a call that asked last, and
that call has returned. Its result is the path that the user has picked if the last trial that it
made was of this path and found it valid, and none otherwise. The call that has waited returns too,
without asking. Its result is the same if and only if the trial that ended last, of whatever call,
has left the same; so it is if that was the trial of the call that asked. -/
theorem Past.handover {l : Locator} (past : Past (ofLocator l) acts p) {i seen : Nat}
    {root : Option Path} (known : p.calls[i]? = some ⟨root, .entered seen⟩)
    (changed : p.locator.promptsShown ≠ seen) :
    ∃ k d r own, lastAsker? acts = some k ∧ p.calls[k]? = some d ∧ d.stage = .done r ∧
      lastTrialOf? k acts = some own ∧ own.left? = some r ∧
      (∀ path, r = some path ↔ own = ⟨k, .validating path, .verdict true⟩ ∧
        ⟨k, .picking, .picked (some path) true⟩ ∈ acts) ∧
      ∃ p' result, p.step? (.advance i .nothing) = some p' ∧
        p'.calls[i]? = some ⟨root, .done result⟩ ∧
        (result = r ↔ ∃ last, lastTrial? acts = some last ∧ last.left? = some r) ∧
        (lastTrial? acts = some own → result = r) := by
  have recorded := past.recorded
  obtain ⟨ge, le⟩ := (recorded.standing i _ known).read seen (.inr rfl)
  have more : l.promptsShown < p.locator.promptsShown :=
    Nat.lt_of_le_of_lt ge (Nat.lt_of_le_of_ne le (Ne.symm changed))
  obtain ⟨k, asker⟩ := Option.isSome_iff_exists.mp (recorded.asked more)
  obtain ⟨act, hact, rfl, -⟩ := exists_of_lastAsker? asker
  obtain ⟨d, hd⟩ : ∃ d, p.calls[act.call]? = some d :=
    ⟨_, List.getElem?_eq_getElem (recorded.come act hact)⟩
  have standing := recorded.standing _ d hd
  -- Whoever still asks has the turn, but here the call that has waited has it.
  obtain ⟨r, returned⟩ : ∃ r, d.stage = .done r := by
    refine (standing.asked asker).resolve_left fun asking => ?_
    have hi : p.phase? i = some (.entered seen) := by
      rw [phase?, known, Option.map_some]
      rfl
    have hk : p.phase? act.call = some .asking := by rw [phase?, hd, Option.map_some, asking]
    have same := recorded.turn.eq hi hk trivial trivial
    rw [same, hk] at hi
    cases hi
  obtain ⟨own, hown, decides⟩ := standing.decided (.inr asker)
  have decides : Decides act.call own r := by rwa [returned] at decides
  obtain ⟨last, left, hlast, hleft⟩ := exists_lastTrial? hown
  have cache : p.locator.cache = left := by
    rw [recorded.cache, hlast, Option.bind_some, hleft, Option.getD_some]
  have possible : p.step? (.advance i .nothing) = some ⟨p.locator.release,
      p.calls.set i ⟨root, .done p.locator.cache⟩,
      account p.tally p.locator (.entered seen) []⟩ := by
    simp only [step?, known, Locator.step?, if_neg changed, Option.map_some]
  refine ⟨act.call, d, r, own, asker, hd, returned, hown, decides.left?, ?_, _,
    p.locator.cache, possible, ?_, ?_, ?_⟩
  · intro path
    rw [decides.eq_some_iff path]
    refine (and_iff_left_of_imp fun hpick => ?_).symm
    have hmem : own ∈ acts := List.mem_of_find?_eq_some hown
    subst hpick
    exact recorded.picked _ hmem path rfl
  · exact List.getElem?_set_self (List.getElem?_eq_some_iff.mp known).1
  · rw [cache, hlast]
    constructor
    · rintro rfl
      exact ⟨last, rfl, hleft⟩
    · rintro ⟨last', same, hr⟩
      obtain rfl := Option.some.inj same
      exact Option.some.inj (hleft.symm.trans hr)
  · intro same
    obtain rfl := Option.some.inj (hlast.symm.trans same)
    exact cache.trans (Option.some.inj (hleft.symm.trans decides.left?))

/-! ### Two prompts -/

/-- The steps that some moves make, from the last to the first. -/
def transcript (p : Parley) : List Move → List Act
  | [] => []
  | .arrive root :: moves =>
    match p.step? (.arrive root) with
    | some p' => p'.transcript moves
    | none => []
  | .advance i a :: moves =>
    match p.calls[i]?, p.step? (.advance i a) with
    | some c, some p' => p'.transcript moves ++ [⟨i, c.stage, a⟩]
    | _, _ => []

theorem Past.follow {start : Parley} {moves : List Move} (past : Past start acts p)
    (hf : p.follow moves = some p') : Past start (p.transcript moves ++ acts) p' := by
  induction moves generalizing p acts with
  | nil =>
    obtain rfl := Option.some.inj hf
    exact past
  | cons move moves ih =>
    simp only [Parley.follow] at hf
    split at hf
    · next q legal =>
      cases move with
      | arrive root =>
        rw [transcript, legal]
        exact ih (past.arrive root legal) hf
      | advance i a =>
        obtain ⟨c, -, -, -, known, -, -⟩ := exists_of_step? legal
        rw [transcript, known, legal, List.append_assoc]
        exact ih (past.act i c a known legal) hf
    · cases hf

/-- The answer to a trial is what a file system says in which just some paths are valid. -/
def Act.isTruthful (valid : String → Bool) (a : Act) : Bool :=
  match a.stage.tried?, a.answer with
  | some path, .verdict isValid => isValid == valid path
  | _, _ => true

/-- A call asks, and the user picks a file. Another call waits meanwhile, and its turn has come. -/
def pickedMeanwhile : List Move :=
  [.arrive none, .arrive none] ++ toWaiting 0 ++ toWaiting 1 ++
    [.nothing, .nothing, .found none, .verdict false, .nothing, .choice (some Prompt.findAction),
      .picked (some "/t") true, .verdict true, .nothing, .nothing].map (.advance 0) ++
    [.advance 1 .nothing]

theorem picked_handed_over : ∃ acts p p', Past (ofLocator (.ofSettings .inMemory)) acts p ∧
    lastAsker? acts = some 0 ∧ p.calls.map Call.stage = [.done (some "/t"), .entered 0] ∧
    p.step? (.advance 1 .nothing) = some p' ∧
    ∃ c, p'.calls[1]? = some c ∧ c.stage = .done (some "/t") := by
  let start : Parley := ofLocator (.ofSettings .inMemory)
  let acts : List Act := start.transcript pickedMeanwhile ++ []
  have hstages : (start.follow pickedMeanwhile).map
      (fun p => (p.locator.promptsShown, p.calls.map Call.stage)) =
        some (1, [.done (some "/t"), .entered 0]) := by decide +kernel
  obtain ⟨p, hf, hp⟩ := Option.map_eq_some_iff.mp hstages
  obtain ⟨shown, stages⟩ := Prod.mk.inj hp
  have past : Past start acts p := Past.stay.follow hf
  have asker : lastAsker? acts = some 0 := by decide +kernel
  have ended : lastTrial? acts = lastTrialOf? 0 acts := by decide +kernel
  have stage {i : Nat} {s : LocateStage}
      (hs : [LocateStage.done (some "/t"), .entered 0][i]? = some s) :
      ∃ root, p.calls[i]? = some ⟨root, s⟩ := by
    rw [← stages, List.getElem?_map, Option.map_eq_some_iff] at hs
    obtain ⟨c, hc, rfl⟩ := hs
    exact ⟨c.root, hc⟩
  obtain ⟨root, known⟩ := stage (i := 1) rfl
  obtain ⟨root', first⟩ := stage (i := 0) rfl
  obtain ⟨k, d, r, own, hk, hd, returned, hown, -, -, p', result, legal, returns, -, same⟩ :=
    past.handover known (by rw [shown]; decide)
  obtain rfl : 0 = k := Option.some.inj (asker.symm.trans hk)
  obtain rfl := Option.some.inj (first.symm.trans hd)
  obtain rfl : some "/t" = r := LocateStage.done.inj returned
  obtain rfl : result = some "/t" := same (ended.trans hown)
  exact ⟨acts, p, p', past, asker, stages, legal, _, returns, rfl⟩

/-- A setting that names a path within the workspace folder. -/
def relative : SettingsStore := ⟨none, [("path", .str "bin/t")], []⟩

/-- A call asks and is dismissed, and another one waits, both for a folder without the executable. A
third call, for a folder that has it, returns while the prompt is open. -/
def foundMeanwhile : List Move :=
  [.arrive (some (Path.ofString "/x")), .arrive (some (Path.ofString "/x")),
    .arrive (some (Path.ofString "/y"))] ++ toWaiting 0 ++ toWaiting 1 ++
    [.nothing, .nothing, .found none, .verdict false, .nothing].map (.advance 0) ++
    [.found none, .verdict true].map (.advance 2) ++
    [.choice none, .nothing].map (.advance 0) ++ [.advance 1 .nothing]

/-- **The result of a bystander is handed over.** The user has dismissed the prompt, so that the
call that asked has returned nothing. Yet the call that has waited for it returns what a third call
has found for another folder. All the while the settings stay as they are, and so does the one path
that is valid. -/
theorem bystander_handed_over : ∃ acts p p', Past (ofLocator (.ofSettings relative)) acts p ∧
    acts.all (Act.isTruthful fun path => path = "/y/bin/t") ∧
    p.locator.settings.current = relative.current ∧
    lastAsker? acts = some 0 ∧ p.locator.promptsShown = 1 ∧
    p.calls.map Call.stage = [.done none, .entered 0, .done (some "/y/bin/t")] ∧
    p.step? (.advance 1 .nothing) = some p' ∧
    p'.calls.map Call.stage = [.done none, .done (some "/y/bin/t"), .done (some "/y/bin/t")] := by
  let start : Parley := ofLocator (.ofSettings relative)
  let acts : List Act := start.transcript foundMeanwhile ++ []
  have hsteps : ((start.follow foundMeanwhile).bind fun p =>
      (p.step? (.advance 1 .nothing)).map fun p' =>
        (p.locator.settings.current, p.locator.promptsShown, p.calls.map Call.stage,
          p'.calls.map Call.stage)) =
      some (relative.current, 1, [.done none, .entered 0, .done (some "/y/bin/t")],
        [.done none, .done (some "/y/bin/t"), .done (some "/y/bin/t")]) := by decide +kernel
  obtain ⟨p, hf, hp⟩ := Option.bind_eq_some_iff.mp hsteps
  obtain ⟨p', legal, hp⟩ := Option.map_eq_some_iff.mp hp
  simp only [Prod.mk.injEq] at hp
  obtain ⟨settings, shown, stages, stages'⟩ := hp
  have truthful : acts.all (Act.isTruthful fun path => path = "/y/bin/t") := by decide +kernel
  have asker : lastAsker? acts = some 0 := by decide +kernel
  exact ⟨acts, p, p', Past.stay.follow hf, truthful, settings, asker, shown, stages, legal,
    stages'⟩

end Parley

end LintBridge
