import LintBridge.Proofs.Document.Versions
import LintBridge.Proofs.Hub.Closing
import LintBridge.Proofs.Hub.Tidings

/-!
# Timers of edits

Every edit starts a timer while documents are linted on changes. When the delay is over, the timer
looks only at the version of its document: if that is still the version of the edit, the timer
becomes due and starts a task, and otherwise it is gone. While versions rise, the version is still
the same if nothing has touched the document since the edit. It is also the same if the document was
closed and has come to this version once more: then the timer of the closed session starts a task
(`Hub.Run.debounced`).

## Main definitions

* `Hub.Ticks` — what a move does to one timer.
* `Hub.firings` — the moments at which a timer starts its task.

## Main results

* `Hub.Ticks.of_tidings` — what a move can do to one timer.
* `Hub.Run.debounced` — which timers start a task, and how often.
-/

namespace LintBridge

namespace Hub

variable {h h' : Hub} {past mid future ms : List Moment} {m c e : Moment}
  {settings : SettingsStore} {move : Move} {k j : Nat} {t : Timer} {u : Uri} {v : Int}
  {texts : List String}

/-! ### The timers of a hub -/

theorem timer?_dropTimer_self : (h.dropTimer k).timer? k = none := by
  simp [timer?, dropTimer]

theorem timer?_dropTimer_of_ne (hk : k ≠ j) : (h.dropTimer j).timer? k = h.timer? k := by
  rw [timer?, dropTimer, List.find?_filter, timer?]
  congr 1
  funext t
  by_cases ht : t.id = k <;> simp [ht, hk]

theorem id_of_timer? (known : h.timer? k = some t) : t.id = k := by
  simpa using List.find?_some known

theorem timer?_markDue :
    (h.markDue j).timer? k = (h.timer? k).map fun t =>
      if k = j then { t with isDue := true } else t := by
  have hsame : ((fun t : Timer => decide (t.id = k)) ∘
      fun t => if t.id = j then { t with isDue := true } else t) = fun t => decide (t.id = k) := by
    funext t
    simp only [Function.comp_apply]
    split <;> rfl
  rw [timer?, markDue, List.find?_map, hsame]
  refine Option.map_congr fun t known => ?_
  rw [id_of_timer? known]

/-- A notice starts one timer at most, with the next number. -/
theorem timersFor_cases (h : Hub) (n : DocumentEvent) :
    h.timersFor n = [] ∨ ∃ u v, h.timersFor n = [⟨h.nextTimer, u, v, false⟩] := by
  unfold timersFor
  split
  · next u v htrigger =>
    split
    · exact .inr ⟨u, v, rfl⟩
    · exact .inl rfl
  · exact .inl rfl

/-- All timers have numbers below the next one. -/
def Counted (h : Hub) : Prop := ∀ t ∈ h.timers, t.id < h.nextTimer

theorem Counted.lt_of_timer? (counted : h.Counted) (known : h.timer? k = some t) :
    k < h.nextTimer :=
  id_of_timer? known ▸ counted t (List.mem_of_find?_eq_some known)

theorem Counted.timer?_eq_none (counted : h.Counted) (hk : h.nextTimer ≤ k) :
    h.timer? k = none := by
  cases known : h.timer? k with
  | none => rfl
  | some t => exact absurd (counted.lt_of_timer? known) (Nat.not_lt.mpr hk)

theorem Tidings.counted (tidings : Tidings h move h') (counted : h.Counted) :
    h'.Counted ∧ h.nextTimer ≤ h'.nextTimer := by
  cases tidings with
  | told n _ _ timers nextTimer =>
    refine ⟨fun t ht => ?_, by omega⟩
    rw [timers] at ht
    obtain ht | ht := List.mem_append.mp ht
    · exact nextTimer ▸ Nat.lt_add_right _ (counted t ht)
    · obtain hnone | ⟨u, v, hone⟩ := h.timersFor_cases n
      · rw [hnone] at ht
        cases ht
      · rw [hone] at ht nextTimer
        obtain rfl := List.mem_singleton.mp ht
        rw [nextTimer]
        exact Nat.lt_succ_self _
  | rearranged => exact ⟨counted, Nat.le_refl _⟩
  | fell j =>
    refine ⟨fun t ht => ?_, Nat.le_refl _⟩
    obtain ⟨t', ht', rfl⟩ := List.mem_map.mp ht
    split <;> exact counted t' ht'
  | lapsed j => exact ⟨fun t ht => counted t (List.mem_of_mem_filter ht), Nat.le_refl _⟩
  | fired j known due rest =>
    refine ⟨fun t ht => ?_, rest.nextTimer.ge⟩
    rw [rest.timers] at ht
    exact rest.nextTimer ▸ counted t (List.mem_of_mem_filter ht)
  | quiet _ rest =>
    exact ⟨fun t ht => rest.nextTimer ▸ counted t (rest.timers ▸ ht), rest.nextTimer.ge⟩

/-! ### One timer -/

/-- The timer starts its task. -/
def Move.fires (k : Nat) : Move → Bool
  | .event (.fire j) => j = k
  | _ => false

/-- The moments at which a timer starts its task. -/
def firings (k : Nat) (ms : List Moment) : List Moment := ms.filter fun m => m.move.fires k

/-- The delay of a timer ends once. The timer becomes due if its document is at the version of the
edit, and is gone if not. -/
theorem Tidings.of_elapse (tidings : Tidings h (.event (.elapse k)) h') :
    ∃ t, h.timer? k = some t ∧ t.isDue = false ∧
      h'.timer? k = if h.isOpenAt t.uri t.version then some { t with isDue := true } else none := by
  cases tidings with
  | @fell t _ known waiting current =>
    refine ⟨t, known, waiting, ?_⟩
    rw [if_pos current, timer?_markDue, known, Option.map_some, if_pos rfl]
  | @lapsed t _ known waiting outdated =>
    exact ⟨t, known, waiting, by rw [if_neg outdated, timer?_dropTimer_self]⟩
  | quiet quiet => cases quiet

/-- What a move does to one timer. -/
inductive Ticks (k : Nat) (h : Hub) (move : Move) (h' : Hub) : Prop where
  | rests (waits : move ≠ .event (.elapse k)) (silent : move.fires k = false)
    (same : h'.timer? k = h.timer? k)
  /-- The delay is over. The timer becomes due if its document is at the version of the edit, and is
  gone if not. -/
  | elapses (t : Timer) (eq : move = .event (.elapse k)) (known : h.timer? k = some t)
    (waiting : t.isDue = false)
    (after : h'.timer? k =
      if h.isOpenAt t.uri t.version then some { t with isDue := true } else none)
  /-- The timer starts its task, and is gone. -/
  | fires (t : Timer) (eq : move = .event (.fire k)) (known : h.timer? k = some t) (due : t.isDue)
    (after : h'.timer? k = none)

/-- **What a move can do to a timer** that was started before. -/
theorem Ticks.of_tidings (tidings : Tidings h move h') (started : k < h.nextTimer) :
    Ticks k h move h' := by
  cases tidings with
  | told n _ _ timers =>
    refine .rests nofun rfl ?_
    have hnew : (h.timersFor n).find? (fun t => t.id = k) = none := by
      obtain hnone | ⟨u, v, hone⟩ := h.timersFor_cases n
      · rw [hnone, List.find?_nil]
      · simp [hone, started.ne']
    rw [timer?, timers, List.find?_append, hnew, Option.or_none, timer?]
  | rearranged => exact .rests nofun rfl rfl
  | @fell t j known waiting current =>
    by_cases hk : k = j
    · subst hk
      obtain ⟨t, known, waiting, after⟩ := (Tidings.fell k known waiting current).of_elapse
      exact .elapses t rfl known waiting after
    · refine .rests (fun eq => hk (by cases eq; rfl)) rfl (timer?_markDue.trans ?_)
      simp only [if_neg hk, Option.map_id']
  | @lapsed t j known waiting outdated =>
    by_cases hk : k = j
    · subst hk
      obtain ⟨t, known, waiting, after⟩ := (Tidings.lapsed k known waiting outdated).of_elapse
      exact .elapses t rfl known waiting after
    · exact .rests (fun eq => hk (by cases eq; rfl)) rfl (timer?_dropTimer_of_ne hk)
  | @fired t _ j known due rest =>
    have same : h'.timer? k = (h.dropTimer j).timer? k := by rw [timer?, rest.timers, timer?]
    by_cases hk : k = j
    · subst hk
      exact .fires t rfl known due (same.trans timer?_dropTimer_self)
    · exact .rests nofun (decide_eq_false (Ne.symm hk)) (same.trans (timer?_dropTimer_of_ne hk))
  | quiet quiet rest =>
    have same : h'.timer? k = h.timer? k := by rw [timer?, rest.timers, timer?]
    cases move with
    | call => exact .rests nofun rfl same
    | event e =>
      cases e with
      | elapse | fire => cases quiet
      | _ => exact .rests nofun rfl same

/-- Only a timer that is there starts a task. -/
theorem Tidings.known_of_fires (tidings : Tidings h move h') (fires : move.fires k) :
    ∃ t, h.timer? k = some t := by
  cases tidings with
  | fired j known =>
    obtain rfl : j = k := by simpa [Move.fires] using fires
    exact ⟨_, known⟩
  | quiet quiet =>
    cases move with
    | call => cases fires
    | event e =>
      cases e with
      | fire j => cases quiet
      | _ => cases fires
  | _ => cases fires

/-! ### The fate of a timer -/

theorem firings_concat :
    firings k (ms ++ [m]) = firings k ms ++ if m.move.fires k then [m] else [] := by
  rw [firings, List.filter_append, List.filter_singleton, firings]
  cases m.move.fires k <;> rfl

theorem firings_append : firings k (ms ++ future) = firings k ms ++ firings k future :=
  List.filter_append ..

theorem counted_ofSettings : (ofSettings settings).Counted := nofun

theorem Run.counted (run : Run h ms h') (counted : h.Counted) :
    h'.Counted ∧ h.nextTimer ≤ h'.nextTimer := by
  induction run with
  | stay => exact ⟨counted, Nat.le_refl _⟩
  | next m past legal ih =>
    obtain ⟨hcounted, hle⟩ := (Tidings.of_isLegal legal).counted ih.1
    exact ⟨hcounted, ih.2.trans hle⟩

/-- A timer that has not been started yet starts no task. -/
theorem Run.firings_of_unstarted (run : Run h ms h') (counted : h.Counted)
    (unstarted : h'.nextTimer ≤ k) : firings k ms = [] := by
  induction run with
  | stay => rfl
  | next m past legal ih =>
    obtain ⟨hbefore, -⟩ := past.counted counted
    obtain ⟨-, hle⟩ := (Tidings.of_isLegal legal).counted hbefore
    have hnone := hbefore.timer?_eq_none (hle.trans unstarted)
    have silent : m.move.fires k = false := by
      by_contra hfires
      obtain ⟨t, known⟩ := (Tidings.of_isLegal legal).known_of_fires (by simpa using hfires)
      cases hnone.symm.trans known
    rw [firings_concat, ih (hle.trans unstarted), silent]
    rfl

/-- A timer that is gone starts no task any more. -/
theorem Run.firings_of_gone (run : Run h ms h') (counted : h.Counted) (started : k < h.nextTimer)
    (gone : h.timer? k = none) : h'.timer? k = none ∧ firings k ms = [] := by
  induction run with
  | stay => exact ⟨gone, rfl⟩
  | next m past legal ih =>
    have hstarted := started.trans_le (past.counted counted).2
    rw [firings_concat, ih.2]
    cases Ticks.of_tidings (Tidings.of_isLegal legal) hstarted with
    | rests _ silent same => exact ⟨same.trans ih.1, by rw [silent]; rfl⟩
    | elapses t _ known => cases ih.1.symm.trans known
    | fires t _ known => cases ih.1.symm.trans known

/-- A timer that is due stays so until it has started its task. It starts one task, for its
document. -/
theorem Run.firings_of_due (run : Run h ms h') (counted : h.Counted) (started : k < h.nextTimer)
    (known : h.timer? k = some t) (due : t.isDue) :
    h'.timer? k = some t ∧ firings k ms = [] ∨
      h'.timer? k = none ∧
        ∃ f, firings k ms = [f] ∧ f.before.callsOf f.move = [(t.uri, .refresh)] := by
  induction run with
  | stay => exact .inl ⟨known, rfl⟩
  | next m past legal ih =>
    have hstarted := started.trans_le (past.counted counted).2
    have ticks := Ticks.of_tidings (Tidings.of_isLegal legal) hstarted
    rw [firings_concat]
    obtain ⟨hstill, hnone⟩ | ⟨hgone, hfired⟩ := ih
    · rw [hnone]
      cases ticks with
      | rests _ silent same => exact .inl ⟨same.trans hstill, by rw [silent]; rfl⟩
      | elapses t' _ known' waiting =>
        obtain rfl := Option.some.inj (hstill.symm.trans known')
        rw [waiting] at due
        cases due
      | fires t' eq known' _ after =>
        refine .inr ⟨after, m, by simp [eq, Move.fires], ?_⟩
        simp [eq, callsOf, hstill]
    · cases ticks with
      | rests _ silent same =>
        refine .inr ⟨same.trans hgone, ?_⟩
        rw [silent]
        simpa using hfired
      | elapses t' _ known' => cases hgone.symm.trans known'
      | fires t' _ known' => cases hgone.symm.trans known'

/-- A timer that is waiting has been waiting all the time. -/
theorem Run.of_waiting (run : Run h ms h') (counted : h.Counted) (started : k < h.nextTimer)
    (known : h'.timer? k = some t) (waiting : t.isDue = false) :
    h.timer? k = some t ∧ firings k ms = [] := by
  induction run with
  | stay => exact ⟨known, rfl⟩
  | next m past legal ih =>
    have hstarted := started.trans_le (past.counted counted).2
    rw [firings_concat]
    cases Ticks.of_tidings (Tidings.of_isLegal legal) hstarted with
    | rests _ silent same =>
      obtain ⟨hfirst, hnone⟩ := ih (same.symm.trans known)
      exact ⟨hfirst, by rw [hnone, silent]; rfl⟩
    | elapses t' _ _ _ after =>
      rw [after] at known
      split at known
      · cases known
        cases waiting
      · cases known
    | fires t' _ _ _ after => cases after.symm.trans known

/-! ### Timers of edits -/

/-- Whether a document is open at a version is told by the notices of the run. -/
theorem Run.isOpenAt_iff (run : Run (ofSettings settings) ms h) :
    h.isOpenAt u v ↔ (Documents.versions u (notices ms)).getLast? = some v := by
  rw [isOpenAt, run.documents_eq_told, Documents.version_told, decide_eq_true_eq]

/-- An edit starts a timer for its version, with the next number. -/
theorem Tidings.timer?_of_edit (tidings : Tidings h (.event (.document (.changed u v texts))) h')
    (counted : h.Counted) (nonempty : texts ≠ []) (on : h.settings.lintOnChange) :
    h'.timer? h.nextTimer = some ⟨h.nextTimer, u, v, false⟩ ∧ h.nextTimer < h'.nextTimer := by
  have htrigger : (h.documents.apply (.changed u v texts)).trigger (.changed u v texts) =
      some (.debounce u v) := if_neg nonempty
  have hnew : h.timersFor (.changed u v texts) = [⟨h.nextTimer, u, v, false⟩] := by
    rw [timersFor, htrigger]
    exact if_pos on
  cases tidings with
  | told _ _ _ timers nextTimer =>
    have hold := counted.timer?_eq_none (Nat.le_refl _)
    rw [timer?] at hold
    rw [timer?, timers, hnew, List.find?_append, hold, nextTimer, hnew]
    simp
  | quiet quiet => cases quiet

/-- While the timer of an edit waits, it has started no task, and is as it was. -/
theorem Run.waits_of_edit (run : Run (ofSettings settings) (past ++ c :: mid) h)
    (edit : c.move = .event (.document (.changed u v texts))) (nonempty : texts ≠ [])
    (on : c.before.settings.lintOnChange) (timer : c.before.nextTimer = k)
    (known : h.timer? k = some t) (waiting : t.isDue = false) :
    t = ⟨k, u, v, false⟩ ∧ firings k (past ++ c :: mid) = [] := by
  obtain ⟨hpast, change, hmid⟩ := run.split
  have hcounted := (hpast.counted counted_ofSettings).1
  have hcounted₁ := ((Tidings.of_isLegal change).counted hcounted).1
  have tidings := Tidings.of_isLegal change
  rw [edit] at tidings
  obtain ⟨hstart, hlt⟩ := tidings.timer?_of_edit hcounted nonempty on
  rw [timer] at hstart hlt
  obtain ⟨hsame, hmidSilent⟩ := hmid.of_waiting hcounted₁ hlt known waiting
  have hpastSilent := hpast.firings_of_unstarted counted_ofSettings timer.le
  refine ⟨Option.some.inj (hsame.symm.trans hstart), ?_⟩
  rw [List.append_cons, firings_append, firings_concat, hpastSilent, hmidSilent, edit]
  rfl

/-- Whether a document is at the version of an edit later on. -/
theorem Run.isOpenAt_of_edit (run : Run (ofSettings settings) (past ++ c :: mid) h)
    (edit : c.move = .event (.document (.changed u v texts))) (nonempty : texts ≠ [])
    (rising : Documents.Rising u (notices (past ++ c :: mid))) :
    h.isOpenAt u v ↔ Documents.Untouched u (notices mid) ∨ Documents.Returns u v (notices mid) := by
  have hnotices : notices (past ++ c :: mid) =
      notices past ++ .changed u v texts :: notices mid := by
    simp [notices, Moment.notice?, edit]
  have hversion : (DocumentEvent.changed u v texts).version? = some v := by
    simp [DocumentEvent.version?, nonempty]
  rw [hnotices] at rising
  rw [run.isOpenAt_iff, hnotices]
  exact Documents.latest_version?_iff rfl hversion rising

/-- **Which edits are followed by a refresh.** An edit, while documents are linted on changes,
starts the next timer, and at some later moment the delay of this timer is over. Up to that moment,
the versions that the document was given since its last close rise.

1. The timer becomes due then if and only if, between the two, the document was neither opened nor
   changed to a text nor closed, or it was closed and has come to the version of the edit once more.
2. If it becomes due, it stays so until it starts a task that refreshes the document. It starts no
   other.
3. If it does not, it never starts a task.

So if no document comes to the same version again after a close, then of the edits in a row the last
one alone is followed by a refresh, and by one only, and the edits of a closed session by none. -/
theorem Run.debounced (run : Run (ofSettings settings) (past ++ c :: mid ++ e :: future) h)
    (edit : c.move = .event (.document (.changed u v texts))) (nonempty : texts ≠ [])
    (on : c.before.settings.lintOnChange) (timer : c.before.nextTimer = k)
    (elapsed : e.move = .event (.elapse k))
    (rising : Documents.Rising u (notices (past ++ c :: mid))) :
    (e.after.timer? k = some ⟨k, u, v, true⟩ ↔
      Documents.Untouched u (notices mid) ∨ Documents.Returns u v (notices mid)) ∧
    (Documents.Untouched u (notices mid) ∨ Documents.Returns u v (notices mid) →
      h.timer? k = some ⟨k, u, v, true⟩ ∧ firings k (past ++ c :: mid ++ e :: future) = [] ∨
      h.timer? k = none ∧ ∃ f, firings k (past ++ c :: mid ++ e :: future) = [f] ∧
        f.before.callsOf f.move = [(u, .refresh)]) ∧
    (¬ (Documents.Untouched u (notices mid) ∨ Documents.Returns u v (notices mid)) →
      firings k (past ++ c :: mid ++ e :: future) = []) := by
  obtain ⟨hupTo, elapse, hafter⟩ := run.split
  have tidings := Tidings.of_isLegal elapse
  have hcounted := (hupTo.counted counted_ofSettings).1
  obtain ⟨hcounted₁, hle⟩ := tidings.counted hcounted
  rw [elapsed] at tidings
  obtain ⟨t, known, waiting, after⟩ := tidings.of_elapse
  have hstarted := (hcounted.lt_of_timer? known).trans_le hle
  obtain ⟨rfl, hsilent⟩ := hupTo.waits_of_edit edit nonempty on timer known waiting
  have hcurrent := hupTo.isOpenAt_of_edit edit nonempty rising
  -- The timer starts its task, if it does, after its delay is over.
  have hfirings : firings k (past ++ c :: mid ++ e :: future) = firings k future := by
    rw [List.append_cons, firings_append, firings_concat, hsilent, elapsed]
    rfl
  rw [← hcurrent, hfirings]
  refine ⟨⟨fun due => ?_, fun current => after.trans (if_pos current)⟩, fun current => ?_,
    fun outdated => ?_⟩
  · by_contra outdated
    rw [if_neg outdated] at after
    cases after.symm.trans due
  · exact hafter.firings_of_due hcounted₁ hstarted (after.trans (if_pos current)) rfl
  · exact (hafter.firings_of_gone hcounted₁ hstarted (after.trans (if_neg outdated))).2

/-! ### Two sessions -/

/-- The draft is changed. -/
def editDraft (version : Int) : Move := .event (.document (.changed draft version ["edited"]))

/-- The moments of a run that makes six moves. -/
private theorem six_of_map_move {a b c d e f : Move}
    (hms : ms.map Moment.move = [a, b, c, d, e, f]) :
    ∃ m₀ m₁ m₂ m₃ m₄ m₅ : Moment, ms = [m₀, m₁, m₂, m₃, m₄, m₅] ∧ m₀.move = a ∧ m₁.move = b ∧
      m₂.move = c ∧ m₃.move = d ∧ m₄.move = e ∧ m₅.move = f := by
  simp only [List.map_eq_cons_iff, List.map_eq_nil_iff] at hms
  obtain ⟨m₀, _, rfl, h₀, m₁, _, rfl, h₁, m₂, _, rfl, h₂, m₃, _, rfl, h₃, m₄, _, rfl, h₄, m₅, _,
    rfl, h₅, rfl⟩ := hms
  exact ⟨m₀, m₁, m₂, m₃, m₄, m₅, rfl, h₀, h₁, h₂, h₃, h₄, h₅⟩

/-- A draft that is edited twice before the delays are over. -/
def burst : List Move :=
  [openDraft 1, editDraft 2, editDraft 3, .event (.elapse 0), .event (.elapse 1),
    .event (.fire 1)]

/-- The first of two edits in a row is followed by no refresh, and the second one by one. -/
theorem burst_debounced : ∃ ms h, Run (ofSettings eager) ms h ∧ ms.map Moment.move = burst ∧
    firings 0 ms = [] ∧ ∃ f, firings 1 ms = [f] ∧
      f.before.callsOf f.move = [(draft, .refresh)] := by
  have seen : ((ofSettings eager).follow burst).map (fun p =>
      (p.1.map fun m => (m.before.nextTimer, m.before.settings.lintOnChange), p.2.timer? 1)) =
      some ([(0, true), (0, true), (1, true), (2, true), (2, true), (2, true)], none) := by rfl
  obtain ⟨ms, h, run, hmoves, seen⟩ := Run.exists_of_follow seen
  obtain ⟨hstates, hgone⟩ := Prod.mk.inj seen
  obtain ⟨m₀, m₁, m₂, m₃, m₄, m₅, rfl, h₀, h₁, h₂, h₃, h₄, h₅⟩ := six_of_map_move hmoves
  simp only [List.map_cons, List.cons.injEq, Prod.mk.injEq] at hstates
  obtain ⟨-, ⟨htimer₁, hon₁⟩, ⟨htimer₂, hon₂⟩, -⟩ := hstates
  have first : Run (ofSettings eager) ([m₀] ++ m₁ :: [m₂] ++ m₃ :: [m₄, m₅]) h := run
  have second : Run (ofSettings eager) ([m₀, m₁] ++ m₂ :: [m₃] ++ m₄ :: [m₅]) h := run
  -- The second edit touches the draft, and nothing touches it after that.
  have hmid₁ : notices [m₂] = [.changed draft 3 ["edited"]] := by
    simp [notices, Moment.notice?, h₂, editDraft]
  have hmid₂ : notices [m₃] = [] := by simp [notices, Moment.notice?, h₃]
  have hrising₁ : Documents.Rising draft (notices ([m₀] ++ m₁ :: [m₂])) := by
    simp only [notices, List.singleton_append, List.filterMap_cons, Moment.notice?, h₀, h₁, h₂]
    decide
  have hrising₂ : Documents.Rising draft (notices ([m₀, m₁] ++ m₂ :: [m₃])) := by
    simp only [notices, List.cons_append, List.nil_append, List.filterMap_cons, Moment.notice?, h₀,
      h₁, h₂, h₃]
    decide
  obtain ⟨-, -, hnever⟩ := first.debounced h₁ (List.cons_ne_nil _ _) hon₁ htimer₁ h₃ hrising₁
  obtain ⟨-, honce, -⟩ := second.debounced h₂ (List.cons_ne_nil _ _) hon₂ htimer₂ h₄ hrising₂
  rw [hmid₁] at hnever
  rw [hmid₂] at honce
  obtain ⟨hstill, -⟩ | ⟨-, hfired⟩ := honce (.inl (by decide))
  · cases hgone.symm.trans hstill
  · exact ⟨_, h, run, hmoves, hnever (by decide), hfired⟩

/-- A draft that is edited, closed, and opened again at the version of the edit before the delay is
over. -/
def returning : List Move :=
  [openDraft 1, editDraft 2, closeDraft, openDraft 2, .event (.elapse 0), .event (.fire 0)]

/-- The edit of a closed session is followed by a refresh, though the draft was closed and opened
since. In each session its versions rise. -/
theorem returning_refreshed : ∃ past c mid e future h,
    Run (ofSettings eager) (past ++ c :: mid ++ e :: future) h ∧ c.move = editDraft 2 ∧
    c.before.settings.lintOnChange ∧ c.before.nextTimer = 0 ∧
    e.move = .event (.elapse 0) ∧
    (∀ l ∈ (notices (past ++ c :: mid)).inits, Documents.Rising draft l) ∧
    notices mid = [.closed draft, .opened draft "proto3" 2 "message m \x7b\x7d"] ∧
    ¬ Documents.Untouched draft (notices mid) ∧
    ∃ f, firings 0 (past ++ c :: mid ++ e :: future) = [f] ∧
      f.before.callsOf f.move = [(draft, .refresh)] := by
  have seen : ((ofSettings eager).follow returning).map (fun p =>
      (p.1.map fun m => (m.before.nextTimer, m.before.settings.lintOnChange),
        (firings 0 p.1).map fun f => f.before.callsOf f.move)) =
      some ([(0, true), (0, true), (1, true), (1, true), (1, true), (1, true)],
        [[(draft, .refresh)]]) := by rfl
  obtain ⟨ms, h, run, hmoves, seen⟩ := Run.exists_of_follow seen
  obtain ⟨hstates, hfirings⟩ := Prod.mk.inj seen
  obtain ⟨f, hone, hcalls⟩ := List.map_eq_singleton_iff.mp hfirings
  obtain ⟨m₀, m₁, m₂, m₃, m₄, m₅, rfl, h₀, h₁, h₂, h₃, h₄, -⟩ := six_of_map_move hmoves
  simp only [List.map_cons, List.cons.injEq, Prod.mk.injEq] at hstates
  obtain ⟨-, ⟨htimer, hon⟩, -⟩ := hstates
  have hrising : ∀ l ∈ (notices ([m₀] ++ m₁ :: [m₂, m₃])).inits, Documents.Rising draft l := by
    simp only [notices, List.singleton_append, List.filterMap_cons, Moment.notice?, h₀, h₁, h₂, h₃]
    decide
  have hmid : notices [m₂, m₃] =
      [.closed draft, .opened draft "proto3" 2 "message m \x7b\x7d"] := by
    simp [notices, Moment.notice?, h₂, h₃, openDraft, closeDraft]
  have touched : ¬ Documents.Untouched draft (notices [m₂, m₃]) := by
    rw [hmid]
    decide
  exact ⟨[m₀], m₁, [m₂, m₃], m₄, [m₅], h, run, h₁, hon, htimer, h₄, hrising, hmid, touched, f, hone,
    hcalls⟩

end Hub

end LintBridge
