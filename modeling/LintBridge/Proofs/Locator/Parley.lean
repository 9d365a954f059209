import LintBridge.Proofs.Locator.Steps

/-!
# Calls that share a locator

Several calls share a locator, and their steps may come in any order. For the turn to ask it does
not matter at which stage exactly a call is, only at which *phase* (`AskPhase`): whether it has read
the number of prompts, waits, has the turn, asks, or has returned. This file says what every step of
a call means for these phases, and gathers the calls with a tally of what they have done.

## Main definitions

* `AskPhase`, `LocateStage.phase` — what a stage means for the turn to ask.
* `LocateEffect`, `TurnEffect` — what a step of a call means for it, and for the turn alone.
* `Parley`, `Parley.Reaches` — the calls that share a locator, with a tally of what they have done.
* `Parley.follow` — the calls after some moves.

## Main results

* `LocateStep.effect`, `LocateStep.turn` — every step has one of these effects.
-/

namespace LintBridge

/-! ### Phases -/

/-- What a stage means for the turn to ask. -/
inductive AskPhase where
  /-- The call has not read the number of prompts. -/
  | before
  /-- The call has read it and waits for its turn. -/
  | waiting (seen : Nat)
  /-- It is the call's turn, and the number is about to be compared. -/
  | entered (seen : Nat)
  /-- The number is still the same, so the call is going to show a warning. -/
  | due
  /-- The warning was shown and is not counted. -/
  | asking
  /-- The call has returned. -/
  | done
  deriving DecidableEq

/-- The phase that a stage belongs to. -/
def LocateStage.phase : LocateStage → AskPhase
  | .starting | .trying _ | .missed => .before
  | .waiting seen => .waiting seen
  | .entered seen => .entered seen
  | .returning | .retrying _ | .warning => .due
  | .warned | .picking | .validating _ | .storing _ | .regretting | .browsing
  | .counting _ => .asking
  | .done _ => .done

/-- The executable that is configured is tried. -/
def LocateStage.IsTrial : LocateStage → Prop
  | .trying _ | .retrying _ => True
  | _ => False

/-- The call has the turn. -/
def AskPhase.HasTurn : AskPhase → Prop
  | .entered _ | .due | .asking => True
  | _ => False

/-- The call has read a number of prompts. For a call that is going to ask or asks, it is the number
of prompts that there are. -/
def AskPhase.HasRead (n seen : Nat) : AskPhase → Prop
  | .waiting s | .entered s => seen = s
  | .due | .asking => seen = n
  | _ => False

/-- The numbers of prompts that a step at a stage reads. -/
def Locator.reading (l : Locator) : LocateStage → List Nat
  | .missed => [l.promptsShown]
  | _ => []

/-- What a step of a call means for the turn to ask: what the user is shown, what is read, and the
phases before and after. -/
inductive LocateEffect (l l' : Locator) (caller : Nat) (prompts : List Prompt) :
    List Nat → AskPhase → AskPhase → Prop where
  /-- Nothing that matters has happened. -/
  | goesOn (p : AskPhase) (busy : p = .before ∨ p = .due ∨ p = .asking)
      (count : l'.promptsShown = l.promptsShown) (turn : l'.asker = l.asker)
      (silent : prompts.count .warning = 0) : LocateEffect l l' caller prompts [] p p
  /-- The number of prompts is read. -/
  | reads (eq : l' = l) (silent : prompts.count .warning = 0) :
    LocateEffect l l' caller prompts [l.promptsShown] .before (.waiting l.promptsShown)
  /-- The turn is free, and the call takes it. -/
  | enters (seen : Nat) (free : l.asker = none) (eq : l' = { l with asker := some caller })
      (silent : prompts.count .warning = 0) :
    LocateEffect l l' caller prompts [] (.waiting seen) (.entered seen)
  /-- The number is still the same. -/
  | stays (eq : l' = l) (silent : prompts.count .warning = 0) :
    LocateEffect l l' caller prompts [] (.entered l.promptsShown) .due
  /-- Someone else has asked meanwhile. -/
  | leaves (seen : Nat) (changed : l.promptsShown ≠ seen) (eq : l' = l.release)
      (silent : prompts.count .warning = 0) :
    LocateEffect l l' caller prompts [] (.entered seen) .done
  /-- The warning is shown. -/
  | warns (eq : l' = l) (once : prompts.count .warning = 1) :
    LocateEffect l l' caller prompts [] .due .asking
  /-- The prompt is counted, and the turn ends. -/
  | counts (eq : l' = { l with promptsShown := l.promptsShown + 1 }.release)
      (silent : prompts.count .warning = 0) : LocateEffect l l' caller prompts [] .asking .done

/-- Every step of a call has one of these effects, unless the executable was found to be valid. -/
theorem LocateStep.effect {l l' : Locator} {caller : Nat} {root : Option Path}
    {s s' : LocateStage} {a : Answer} {prompts : List Prompt}
    (step : LocateStep l caller root s a l' s' prompts)
    (fails : s.IsTrial → a ≠ .verdict true) :
    LocateEffect l l' caller prompts (l.reading s) s.phase s'.phase := by
  cases step with
  | start | miss => exact .goesOn .before (.inl rfl) rfl rfl rfl
  | hit path | hitAgain path => exact absurd rfl (fails trivial)
  | read => exact .reads rfl rfl
  | enter seen free => exact .enters seen free rfl rfl
  | stay => exact .stays rfl rfl
  | leave seen changed => exact .leaves seen changed rfl rfl
  | restart | missAgain => exact .goesOn .due (.inr (.inl rfl)) rfl rfl rfl
  | warn => exact .warns rfl rfl
  | count result => exact .counts rfl rfl
  | find | download | dismiss | pick | pickNone | accept | reject | store | regret | browse =>
    exact .goesOn .asking (.inr (.inr rfl)) rfl rfl rfl

/-- What a step of a call means for the turn alone. -/
inductive TurnEffect (l l' : Locator) (caller : Nat) (φ φ' : AskPhase) : Prop where
  /-- The turn stays where it is. -/
  | stays (asker : l'.asker = l.asker) (same : φ'.HasTurn ↔ φ.HasTurn)
  /-- The turn is free, and the call takes it. -/
  | taken (free : l.asker = none) (asker : l'.asker = some caller) (has : φ'.HasTurn)
  /-- The call has the turn and gives it up. -/
  | ended (had : φ.HasTurn) (asker : l'.asker = none) (rests : ¬ φ'.HasTurn)

/-- Every step of a call has one of these effects on the turn, also if an executable is found. -/
theorem LocateStep.turn {l l' : Locator} {caller : Nat} {root : Option Path} {s s' : LocateStage}
    {a : Answer} {prompts : List Prompt} (step : LocateStep l caller root s a l' s' prompts) :
    TurnEffect l l' caller s.phase s'.phase := by
  cases step with
  | enter seen free => exact .taken free rfl trivial
  | leave | hitAgain | count => exact .ended trivial rfl id
  | _ => exact .stays rfl Iff.rfl

theorem LocateEffect.turn {l l' : Locator} {caller : Nat} {prompts : List Prompt}
    {reading : List Nat} {φ φ' : AskPhase}
    (effect : LocateEffect l l' caller prompts reading φ φ') : TurnEffect l l' caller φ φ' := by
  cases effect with
  | goesOn _ _ _ turn _ => exact .stays turn Iff.rfl
  | reads eq _ => exact .stays (eq ▸ rfl) Iff.rfl
  | enters _ free eq _ => exact .taken free (eq ▸ rfl) trivial
  | stays eq _ | warns eq _ => exact .stays (eq ▸ rfl) Iff.rfl
  | leaves _ _ eq _ => exact .ended trivial (eq ▸ rfl) id
  | counts eq _ => exact .ended trivial (eq ▸ rfl) id

/-! ### Calls that share a locator -/

/-- A call: the first workspace folder, and how far it has come. -/
structure Call where
  root : Option Path
  stage : LocateStage

/-- What the calls have done so far. -/
structure Tally where
  /-- The numbers of prompts that the calls have read. -/
  readings : List Nat
  /-- How many warnings were shown. -/
  warnings : Nat
  /-- How many warnings were answered. -/
  answers : Nat
  /-- How many calls came after a warning was answered. -/
  latecomers : Nat

/-- The calls that share a locator, with a tally of what they have done. -/
structure Parley where
  locator : Locator
  calls : List Call
  tally : Tally

namespace Parley

/-- What can happen. -/
inductive Move where
  /-- Another call comes. -/
  | arrive (root : Option Path)
  /-- A call takes a step. -/
  | advance (call : Nat) (answer : Answer)

/-- The tally after another call has come. -/
def arrival (t : Tally) : Tally :=
  if t.answers = 0 then t else { t with latecomers := t.latecomers + 1 }

/-- The tally after a step of a call at a stage, with what the user was shown. -/
def account (t : Tally) (l : Locator) (s : LocateStage) (prompts : List Prompt) : Tally where
  readings := t.readings ++ l.reading s
  warnings := t.warnings + prompts.count .warning
  answers := if s = .warned then t.answers + 1 else t.answers
  latecomers := t.latecomers

/-- The calls after a move. None if the move is not possible. -/
def step? (p : Parley) : Move → Option Parley
  | .arrive root =>
    some { p with calls := p.calls ++ [⟨root, .starting⟩], tally := arrival p.tally }
  | .advance i a =>
    match p.calls[i]? with
    | some c =>
      (p.locator.step? i c.root c.stage a).map fun (l, s, prompts) =>
        ⟨l, p.calls.set i ⟨c.root, s⟩, account p.tally p.locator c.stage prompts⟩
    | none => none

/-- No executable that is configured is found to be valid by the move. -/
def Fails (p : Parley) : Move → Prop
  | .arrive _ => True
  | .advance i a => ∀ c, p.calls[i]? = some c → c.stage.IsTrial → a ≠ .verdict true

/-- No call has come yet. -/
def ofLocator (l : Locator) : Parley := ⟨l, [], ⟨[], 0, 0, 0⟩⟩

/-- The calls come to this by moves that are made in any order, while no executable that is
configured is found to be valid. -/
inductive Reaches (start : Parley) : Parley → Prop where
  | stay : Reaches start start
  | next {p p' : Parley} (move : Move) (past : Reaches start p) (fails : p.Fails move)
      (legal : p.step? move = some p') : Reaches start p'

variable {p p' start : Parley}

/-- A move of a call is a step of it. -/
theorem exists_of_step? {i : Nat} {a : Answer} (legal : p.step? (.advance i a) = some p') :
    ∃ c l s prompts, p.calls[i]? = some c ∧ LocateStep p.locator i c.root c.stage a l s prompts ∧
      p' = ⟨l, p.calls.set i ⟨c.root, s⟩, account p.tally p.locator c.stage prompts⟩ := by
  simp only [step?] at legal
  split at legal
  · next c hc =>
    obtain ⟨⟨l, s, prompts⟩, hstep, rfl⟩ := Option.map_eq_some_iff.mp legal
    exact ⟨c, l, s, prompts, hc, Locator.step?_eq_some_iff.mp hstep, rfl⟩
  · cases legal

/-- After another call has come, a call is one that was there before or the new one. -/
theorem call_of_append {c d : Call} {j : Nat} (hc : (p.calls ++ [d])[j]? = some c) :
    p.calls[j]? = some c ∨ j = p.calls.length ∧ c = d := by
  rw [List.getElem?_append] at hc
  split at hc
  · exact .inl hc
  · next hge =>
    obtain ⟨hlt, hc⟩ := List.getElem?_eq_some_iff.mp hc
    rw [List.length_singleton] at hlt
    exact .inr ⟨by omega, hc.symm.trans (List.getElem_singleton hlt)⟩

/-- After a step of a call, a call is as it was before or the one that has taken the step. -/
theorem call_of_set {c d : Call} {i j : Nat} (hc : (p.calls.set i d)[j]? = some c) :
    i = j ∧ c = d ∨ i ≠ j ∧ p.calls[j]? = some c := by
  rw [List.getElem?_set] at hc
  split at hc
  · next hij =>
    split at hc
    · exact .inl ⟨hij, (Option.some.inj hc).symm⟩
    · cases hc
  · next hij => exact .inr ⟨hij, hc⟩

/-! ### Following moves -/

/-- The calls after some moves. None if one of them is not possible. -/
def follow (p : Parley) : List Move → Option Parley
  | [] => some p
  | move :: moves =>
    match p.step? move with
    | some p' => p'.follow moves
    | none => none

/-- The move does not bring word that a path is valid. -/
def Move.isFailing : Move → Bool
  | .advance _ (.verdict true) => false
  | _ => true

theorem fails_of_isFailing {move : Move} (failing : move.isFailing) : p.Fails move := by
  cases move with
  | arrive => trivial
  | advance i a =>
    rintro c - - rfl
    cases failing

theorem Reaches.follow {moves : List Move} (past : Reaches start p)
    (hf : p.follow moves = some p') (failing : moves.all Move.isFailing) : Reaches start p' := by
  induction moves generalizing p with
  | nil =>
    obtain rfl := Option.some.inj hf
    exact past
  | cons move moves ih =>
    simp only [Parley.follow] at hf
    simp only [List.all_cons, Bool.and_eq_true] at failing
    split at hf
    · next legal => exact ih (past.next move (fails_of_isFailing failing.1) legal) hf failing.2
    · cases hf

/-- A call finds that the executable is not valid and reads the number of prompts. -/
def toWaiting (call : Nat) : List Move :=
  [.found none, .verdict false, .nothing].map (.advance call)

/-- A call takes the turn, asks, is dismissed and returns. -/
def toAnswer (call : Nat) : List Move :=
  [.nothing, .nothing, .found none, .verdict false, .nothing, .choice none, .nothing].map
    (.advance call)

end Parley

end LintBridge
