import LintBridge.Proofs.Locator.Parley

/-!
# How often the user is asked

Several calls share a locator, and their steps may come in any order. When no executable can be
used, every call finds that out by itself, then reads how many prompts have been answered, and then
waits for its turn to ask. In its turn it asks only if the number is still the same.

So what matters is what the calls have read. There is one warning for each number that was read, and
the user is asked at most once if all calls have read the same number, that is, if each of them has
done so before the first prompt was counted. To have started by then is not enough: a call that is
still trying the executable when the first prompt is answered reads a newer number and asks again.

## Main definitions

* `Parley.InTurn`, `Parley.Balanced`, `Parley.WellRead` — the parts of the invariant of the turns.
* `Parley.Fair` — the invariant.

## Main results

* `Parley.Reaches.fair` — the invariant holds whatever the order of steps.
* `Parley.Reaches.asks_once_iff` — when the user is asked at most once.
-/

namespace LintBridge

namespace Parley

variable {p p' start : Parley} {n i : Nat} {φ φ' : AskPhase}

/-! ### What holds whatever the order of steps -/

/-- The phase of a call. -/
def phase? (p : Parley) (i : Nat) : Option AskPhase := (p.calls[i]?).map fun c => c.stage.phase

/-- Whoever is past waiting has the turn. -/
def InTurn (p : Parley) : Prop :=
  ∀ i φ, p.phase? i = some φ → φ.HasTurn → p.locator.asker = some i

/-- There is one warning for each prompt that was counted, and one more while a warning is open. The
count was `n` in the beginning. -/
structure Balanced (n : Nat) (p : Parley) : Prop where
  asking : ∀ i, p.phase? i = some .asking → p.tally.warnings + n = p.locator.promptsShown + 1
  resting : (∀ i, p.phase? i ≠ some .asking) → p.tally.warnings + n = p.locator.promptsShown

/-- What was read: every count that there was, from `n` on. Whoever has read the present one has not
returned. -/
structure WellRead (n : Nat) (p : Parley) : Prop where
  le_shown : n ≤ p.locator.promptsShown
  reading_le : ∀ r ∈ p.tally.readings, n ≤ r ∧ r ≤ p.locator.promptsShown
  covered : ∀ r, n ≤ r → r < p.locator.promptsShown → r ∈ p.tally.readings
  read : ∀ i φ r, p.phase? i = some φ → φ.HasRead p.locator.promptsShown r → r ∈ p.tally.readings
  pending : p.locator.promptsShown ∈ p.tally.readings →
    ∃ i φ, p.phase? i = some φ ∧ φ.HasRead p.locator.promptsShown p.locator.promptsShown

/-- A step of one call, with what it means. -/
structure Advances (p p' : Parley) (i : Nat) (φ φ' : AskPhase) (reading : List Nat)
    (prompts : List Prompt) : Prop where
  phase : p.phase? i = some φ
  phases : ∀ j, p'.phase? j = if j = i then some φ' else p.phase? j
  effect : LocateEffect p.locator p'.locator i prompts reading φ φ'
  warnings : p'.tally.warnings = p.tally.warnings + prompts.count .warning
  readings : p'.tally.readings = p.tally.readings ++ reading

variable {reading : List Nat} {prompts : List Prompt} {j : Nat} {ψ : AskPhase}

theorem InTurn.eq (turn : p.InTurn) (hφ : p.phase? i = some φ) (hψ : p.phase? j = some ψ)
    (hasTurn : φ.HasTurn) (hasTurn' : ψ.HasTurn) : i = j :=
  Option.some.inj ((turn i φ hφ hasTurn).symm.trans (turn j ψ hψ hasTurn'))

theorem Advances.phase_self (adv : Advances p p' i φ φ' reading prompts) :
    p'.phase? i = some φ' :=
  (adv.phases i).trans (if_pos rfl)

theorem Advances.phase_of_ne (adv : Advances p p' i φ φ' reading prompts) (hj : j ≠ i) :
    p'.phase? j = p.phase? j :=
  (adv.phases j).trans (if_neg hj)

/-- A step of a call leaves the turn with whoever is past waiting. -/
theorem InTurn.step (turn : p.InTurn) (phase : p.phase? i = some φ)
    (phases : ∀ j, p'.phase? j = if j = i then some φ' else p.phase? j)
    (effect : TurnEffect p.locator p'.locator i φ φ') : p'.InTurn := by
  intro j ψ hψ hasTurn
  rw [phases] at hψ
  split at hψ
  · next hj =>
    subst hj
    obtain rfl := Option.some.inj hψ
    cases effect with
    | stays asker same => exact asker.trans (turn j φ phase (same.mp hasTurn))
    | taken _ asker _ => exact asker
    | ended _ _ rests => exact absurd hasTurn rests
  · next hj =>
    have had := turn j ψ hψ hasTurn
    cases effect with
    | stays asker _ => exact asker.trans had
    | taken free _ _ => exact absurd (free.symm.trans had) nofun
    | ended has _ _ => exact absurd (turn.eq hψ phase hasTurn has) hj

theorem InTurn.advance (turn : p.InTurn) (adv : Advances p p' i φ φ' reading prompts) :
    p'.InTurn :=
  turn.step adv.phase adv.phases adv.effect.turn

/-- A step that neither shows a warning nor counts one. -/
private theorem Balanced.quiet (balanced : p.Balanced n)
    (adv : Advances p p' i φ φ' reading prompts) (same : φ = .asking ↔ φ' = .asking)
    (count : p'.locator.promptsShown = p.locator.promptsShown)
    (silent : prompts.count .warning = 0) : p'.Balanced n := by
  have hwarnings : p'.tally.warnings = p.tally.warnings := by
    rw [adv.warnings, silent, Nat.add_zero]
  have hiff (j : Nat) : p'.phase? j = some .asking ↔ p.phase? j = some .asking := by
    by_cases hj : j = i
    · rw [hj, adv.phase_self, adv.phase, Option.some_inj, Option.some_inj, same]
    · rw [adv.phase_of_ne hj]
  constructor
  · intro j hj
    rw [hwarnings, count]
    exact balanced.asking j ((hiff j).mp hj)
  · intro hrest
    rw [hwarnings, count]
    exact balanced.resting fun j hj => hrest j ((hiff j).mpr hj)

theorem Balanced.advance (balanced : p.Balanced n) (turn : p.InTurn)
    (adv : Advances p p' i φ φ' reading prompts) : p'.Balanced n := by
  cases adv.effect with
  | goesOn _ _ count _ silent => exact balanced.quiet adv Iff.rfl count silent
  | reads eq silent | stays eq silent | enters _ _ eq silent | leaves _ _ eq silent =>
    exact balanced.quiet adv (by simp) (eq ▸ rfl) silent
  | warns eq once =>
    have resting : ∀ j, p.phase? j ≠ some .asking := by
      intro j hj
      obtain rfl := turn.eq adv.phase hj trivial trivial
      exact absurd (adv.phase.symm.trans hj) nofun
    have hbefore := balanced.resting resting
    have hwarnings := adv.warnings
    constructor
    · intro j _
      rw [eq]
      omega
    · intro hrest
      exact absurd adv.phase_self (hrest i)
  | counts eq silent =>
    have hbefore := balanced.asking i adv.phase
    have hwarnings := adv.warnings
    have hcount : p'.locator.promptsShown = p.locator.promptsShown + 1 := eq ▸ rfl
    constructor
    · intro j hj
      have hne : j ≠ i := by
        rintro rfl
        exact absurd (adv.phase_self.symm.trans hj) nofun
      rw [adv.phase_of_ne hne] at hj
      exact absurd (turn.eq hj adv.phase trivial trivial) hne
    · intro _
      omega

/-- A step that reads and counts nothing. After it the call has read nothing that it had not read
before, and the present number if it had. -/
private theorem WellRead.quiet (wellRead : p.WellRead n)
    (adv : Advances p p' i φ φ' [] prompts)
    (count : p'.locator.promptsShown = p.locator.promptsShown)
    (known : ∀ r, φ'.HasRead p.locator.promptsShown r → φ.HasRead p.locator.promptsShown r)
    (kept : φ.HasRead p.locator.promptsShown p.locator.promptsShown →
      φ'.HasRead p.locator.promptsShown p.locator.promptsShown) : p'.WellRead n := by
  have hreadings : p'.tally.readings = p.tally.readings := by rw [adv.readings, List.append_nil]
  constructor <;> rw [count] <;> try rw [hreadings]
  · exact wellRead.le_shown
  · exact wellRead.reading_le
  · exact wellRead.covered
  · intro j ψ r hψ hread
    by_cases hj : j = i
    · rw [hj, adv.phase_self] at hψ
      obtain rfl := Option.some.inj hψ
      exact wellRead.read i φ r adv.phase (known r hread)
    · exact wellRead.read j ψ r (adv.phase_of_ne hj ▸ hψ) hread
  · intro hmem
    obtain ⟨j, ψ, hψ, hread⟩ := wellRead.pending hmem
    by_cases hj : j = i
    · rw [hj, adv.phase] at hψ
      obtain rfl := Option.some.inj hψ
      exact ⟨i, φ', adv.phase_self, kept hread⟩
    · exact ⟨j, ψ, (adv.phase_of_ne hj).trans hψ, hread⟩

/-- A step that reads the present number. -/
private theorem WellRead.reads (wellRead : p.WellRead n)
    (adv : Advances p p' i φ (.waiting p.locator.promptsShown) [p.locator.promptsShown] prompts)
    (count : p'.locator.promptsShown = p.locator.promptsShown) : p'.WellRead n := by
  constructor <;> rw [count] <;> try rw [adv.readings]
  · exact wellRead.le_shown
  · intro r hr
    rcases List.mem_append.mp hr with hr | hr
    · exact wellRead.reading_le r hr
    · obtain rfl := List.mem_singleton.mp hr
      exact ⟨wellRead.le_shown, Nat.le_refl _⟩
  · intro r hn hlt
    exact List.mem_append_left _ (wellRead.covered r hn hlt)
  · intro j ψ r hψ hread
    by_cases hj : j = i
    · rw [hj, adv.phase_self] at hψ
      obtain rfl := Option.some.inj hψ
      exact List.mem_append_right _ (List.mem_singleton.mpr hread)
    · exact List.mem_append_left _ (wellRead.read j ψ r (adv.phase_of_ne hj ▸ hψ) hread)
  · intro _
    exact ⟨i, _, adv.phase_self, rfl⟩

/-- A step that counts a prompt. -/
private theorem WellRead.counts (wellRead : p.WellRead n) (turn : p.InTurn)
    (adv : Advances p p' i .asking .done [] prompts)
    (count : p'.locator.promptsShown = p.locator.promptsShown + 1) : p'.WellRead n := by
  have hreadings : p'.tally.readings = p.tally.readings := by rw [adv.readings, List.append_nil]
  have hle := wellRead.le_shown
  constructor <;> rw [count] <;> try rw [hreadings]
  · omega
  · intro r hr
    have hbounds := wellRead.reading_le r hr
    omega
  · intro r hn hlt
    rcases Nat.lt_succ_iff_lt_or_eq.mp hlt with hlt | rfl
    · exact wellRead.covered r hn hlt
    · exact wellRead.read i _ _ adv.phase rfl
  · intro j ψ r hψ hread
    have hne : j ≠ i := by
      rintro rfl
      obtain rfl := Option.some.inj (adv.phase_self.symm.trans hψ)
      exact hread.elim
    rw [adv.phase_of_ne hne] at hψ
    cases ψ with
    | waiting | entered => exact wellRead.read j _ r hψ hread
    | due | asking => exact absurd (turn.eq hψ adv.phase trivial trivial) hne
    | before | done => exact hread.elim
  · intro hmem
    have hbound := (wellRead.reading_le _ hmem).2
    omega

theorem WellRead.advance (wellRead : p.WellRead n) (turn : p.InTurn)
    (adv : Advances p p' i φ φ' reading prompts) : p'.WellRead n := by
  cases adv.effect with
  | goesOn _ _ count _ _ => exact wellRead.quiet adv count (fun _ => id) id
  | enters _ _ eq _ | stays eq _ | warns eq _ =>
    exact wellRead.quiet adv (eq ▸ rfl) (fun _ => id) id
  | reads eq _ => exact wellRead.reads adv (eq ▸ rfl)
  | leaves seen changed eq _ =>
    -- The call has read another number, so it is not the one that is still to come.
    exact wellRead.quiet adv (eq ▸ rfl) (fun _ => False.elim) fun hread => absurd hread changed
  | counts eq _ => exact wellRead.counts turn adv (eq ▸ rfl)

/-! ### The invariant -/

/-- The invariant of the turns, with `n` prompts counted in the beginning. -/
structure Fair (n : Nat) (p : Parley) : Prop where
  turn : p.InTurn
  balanced : p.Balanced n
  wellRead : p.WellRead n

/-- A step changes the phase of one call. -/
theorem phase?_set {c d : Call} {l : Locator} {t : Tally} (hc : p.calls[i]? = some c) (j : Nat) :
    phase? ⟨l, p.calls.set i d, t⟩ j = if j = i then some d.stage.phase else p.phase? j := by
  have hlt : i < p.calls.length := (List.getElem?_eq_some_iff.mp hc).1
  by_cases hj : j = i
  · simp [phase?, hj, hlt]
  · simp [phase?, hj, Ne.symm hj]

/-- A step of a call advances it by what the step means for the turn. -/
theorem advances_of_step? {a : Answer} (legal : p.step? (.advance i a) = some p')
    (fails : p.Fails (.advance i a)) :
    ∃ φ φ' reading prompts, Advances p p' i φ φ' reading prompts := by
  obtain ⟨c, l, s, prompts, hc, step, rfl⟩ := exists_of_step? legal
  refine ⟨c.stage.phase, s.phase, p.locator.reading c.stage, prompts, ?_, phase?_set hc,
    step.effect (fails c hc), rfl, rfl⟩
  rw [phase?, hc, Option.map_some]

/-- A call that comes has not read the number of prompts, and the others are where they were. -/
theorem phase?_arrive {root : Option Path} (legal : p.step? (.arrive root) = some p') :
    p'.phase? j = some ψ ↔ p.phase? j = some ψ ∨ j = p.calls.length ∧ ψ = .before := by
  obtain rfl := Option.some.inj legal
  simp only [phase?]
  rcases Nat.lt_trichotomy j p.calls.length with hlt | rfl | hgt
  · rw [List.getElem?_append_left hlt]
    simp [Nat.ne_of_lt hlt]
  · simp [LocateStage.phase, eq_comm]
  · rw [List.getElem?_eq_none (by simp; omega), List.getElem?_eq_none (Nat.le_of_lt hgt)]
    simp [Nat.ne_of_gt hgt]

theorem InTurn.arrive (turn : p.InTurn) {root : Option Path}
    (legal : p.step? (.arrive root) = some p') : p'.InTurn := by
  intro j ψ hψ hasTurn
  have hlocator : p'.locator = p.locator := by
    obtain rfl := Option.some.inj legal
    rfl
  rcases (phase?_arrive legal).mp hψ with hψ | ⟨-, rfl⟩
  · exact hlocator ▸ turn j ψ hψ hasTurn
  · exact hasTurn.elim

theorem Fair.arrive (fair : p.Fair n) {root : Option Path}
    (legal : p.step? (.arrive root) = some p') : p'.Fair n := by
  have hphase (j : Nat) (ψ : AskPhase) := phase?_arrive (j := j) (ψ := ψ) legal
  have hlocator : p'.locator = p.locator := by
    obtain rfl := Option.some.inj legal
    rfl
  have htally : p'.tally.warnings = p.tally.warnings ∧
      p'.tally.readings = p.tally.readings := by
    obtain rfl := Option.some.inj legal
    dsimp only [arrival]
    split <;> exact ⟨rfl, rfl⟩
  obtain ⟨hwarnings, hreadings⟩ := htally
  obtain ⟨turn, balanced, wellRead⟩ := fair
  refine ⟨turn.arrive legal, ⟨?_, ?_⟩, ?_⟩
  · intro j hj
    rw [hwarnings, hlocator]
    rcases (hphase j _).mp hj with hj | ⟨-, hj⟩
    · exact balanced.asking j hj
    · cases hj
  · intro hrest
    rw [hwarnings, hlocator]
    exact balanced.resting fun j hj => hrest j ((hphase j _).mpr (.inl hj))
  · constructor <;> rw [hlocator] <;> try rw [hreadings]
    · exact wellRead.le_shown
    · exact wellRead.reading_le
    · exact wellRead.covered
    · intro j ψ r hψ hread
      rcases (hphase j ψ).mp hψ with hψ | ⟨-, rfl⟩
      · exact wellRead.read j ψ r hψ hread
      · exact hread.elim
    · intro hmem
      obtain ⟨j, ψ, hψ, hread⟩ := wellRead.pending hmem
      exact ⟨j, ψ, (hphase j ψ).mpr (.inl hψ), hread⟩

/-- A move keeps the turns fair. -/
theorem Fair.step (fair : p.Fair n) {move : Move} (fails : p.Fails move)
    (legal : p.step? move = some p') : p'.Fair n := by
  cases move with
  | arrive root => exact fair.arrive legal
  | advance i a =>
    obtain ⟨φ, φ', reading, prompts, adv⟩ := advances_of_step? legal fails
    exact ⟨fair.turn.advance adv, fair.balanced.advance fair.turn adv,
      fair.wellRead.advance fair.turn adv⟩

theorem fair_ofLocator (l : Locator) : (ofLocator l).Fair l.promptsShown := by
  have hcalls (i : Nat) : (ofLocator l).phase? i = none := rfl
  have hreadings : (ofLocator l).tally.readings = [] := rfl
  have hwarnings : (ofLocator l).tally.warnings = 0 := rfl
  have hlocator : (ofLocator l).locator = l := rfl
  refine ⟨?_, ⟨?_, ?_⟩, ?_, ?_, ?_, ?_, ?_⟩
  · simp [InTurn, hcalls]
  · simp [hcalls]
  · simp [hwarnings, hlocator]
  · simp [hlocator]
  · simp [hreadings]
  · intro r hn hlt
    rw [hlocator] at hlt
    exact absurd hlt (Nat.not_lt_of_le hn)
  · simp [hcalls]
  · simp [hreadings]

/-- The turns are fair whatever the order of moves. -/
theorem Reaches.fair {l : Locator} (reaches : Reaches (ofLocator l) p) :
    p.Fair l.promptsShown := by
  induction reaches with
  | stay => exact fair_ofLocator l
  | next move _ fails legal ih => exact ih.step fails legal

/-! ### How many warnings there are -/

/-- All calls have returned. -/
def Finished (p : Parley) : Prop := ∀ i φ, p.phase? i = some φ → φ = .done

/-- When all calls have returned, there was one warning for each number that was read. -/
theorem Fair.mem_readings_iff (fair : p.Fair n) (finished : p.Finished) {r : Nat} :
    r ∈ p.tally.readings ↔ n ≤ r ∧ r < n + p.tally.warnings := by
  have hrest := fair.balanced.resting fun i hi => absurd (finished i _ hi) nofun
  have hcurrent : p.locator.promptsShown ∉ p.tally.readings := by
    intro hmem
    obtain ⟨i, φ, hφ, hread⟩ := fair.wellRead.pending hmem
    rw [finished i φ hφ] at hread
    exact hread
  constructor
  · intro hr
    have hle := fair.wellRead.reading_le r hr
    have hne : r ≠ p.locator.promptsShown := by
      rintro rfl
      exact hcurrent hr
    omega
  · rintro ⟨hn, hlt⟩
    exact fair.wellRead.covered r hn (by omega)

/-- If all calls have read the same number, no second warning is shown. -/
theorem Fair.warnings_le_one (fair : p.Fair n) (same : ∀ r ∈ p.tally.readings, r = n) :
    p.tally.warnings ≤ 1 := by
  by_cases hasking : ∃ i, p.phase? i = some .asking
  · obtain ⟨i, hi⟩ := hasking
    have hbalance := fair.balanced.asking i hi
    have hshown := same _ (fair.wellRead.read i .asking _ hi rfl)
    omega
  · have hrest := fair.balanced.resting fun i hi => hasking ⟨i, hi⟩
    refine Nat.le_of_not_lt fun hmany => ?_
    have hmem := fair.wellRead.covered (n + 1) (Nat.le_succ n) (by omega)
    exact absurd (same _ hmem) (Nat.succ_ne_self n)

/-- **When the user is asked at most once.** As long as no executable that is configured is found to
be valid, whatever the number of calls and the order of their steps:

1. if every call that has read the number of prompts has done so before the first one was counted,
   there was at most one warning;
2. when all calls have returned, there was at most one warning only if this is so, and in any case
   there was one warning for each number that was read. -/
theorem Reaches.asks_once_iff {l : Locator} (reaches : Reaches (ofLocator l) p) :
    ((∀ r ∈ p.tally.readings, r = l.promptsShown) → p.tally.warnings ≤ 1) ∧
    (p.Finished →
      (p.tally.warnings ≤ 1 ↔ ∀ r ∈ p.tally.readings, r = l.promptsShown) ∧
      ∀ r, r ∈ p.tally.readings ↔
        l.promptsShown ≤ r ∧ r < l.promptsShown + p.tally.warnings) := by
  have fair := reaches.fair
  refine ⟨fair.warnings_le_one, fun finished => ⟨⟨?_, fair.warnings_le_one⟩, ?_⟩⟩
  · intro hle r hr
    have hbounds := (fair.mem_readings_iff finished).mp hr
    omega
  · intro r
    exact fair.mem_readings_iff finished

/-- Two calls that both read the number of prompts before one of them asks. -/
def together : List Move :=
  [.arrive none, .arrive none] ++ toWaiting 0 ++ toWaiting 1 ++ toAnswer 0 ++
    [.nothing, .nothing].map (.advance 1)

theorem together_asks_once : ∃ p, Reaches (ofLocator (.ofSettings .inMemory)) p ∧
    p.tally.readings = [0, 0] ∧ p.tally.warnings ≤ 1 := by
  have seen : ((ofLocator (.ofSettings .inMemory)).follow together).map
      (fun p => p.tally.readings) = some [0, 0] := by rfl
  obtain ⟨p, hf, readings⟩ := Option.map_eq_some_iff.mp seen
  have reaches : Reaches (ofLocator (.ofSettings .inMemory)) p := Reaches.stay.follow hf rfl
  exact ⟨p, reaches, readings, reaches.asks_once_iff.1 (by simp [readings, Locator.ofSettings])⟩

/-- Two calls, one of which is still trying the executable while the other one asks. -/
def apart : List Move :=
  [.arrive none, .arrive none] ++ toWaiting 0 ++ toAnswer 0 ++ toWaiting 1 ++ toAnswer 1

/-- Two calls that had both come before any warning was answered can ask twice. -/
theorem apart_asks_twice : ∃ p, Reaches (ofLocator (.ofSettings .inMemory)) p ∧
    p.tally.latecomers = 0 ∧ p.tally.warnings = 2 := by
  have seen : ((ofLocator (.ofSettings .inMemory)).follow apart).map
      (fun p => (p.tally.latecomers, p.tally.warnings)) = some (0, 2) := by rfl
  obtain ⟨p, hf, tally⟩ := Option.map_eq_some_iff.mp seen
  obtain ⟨latecomers, warnings⟩ := Prod.mk.inj tally
  exact ⟨p, Reaches.stay.follow hf rfl, latecomers, warnings⟩

end Parley

end LintBridge
