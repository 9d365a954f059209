import LintBridge.Proofs.Hub.Overtaken

/-!
# Closing a document

When a document is closed, a task is started that takes its diagnostics away. The task does so only
while no newer trigger has come for the document; from then on the newer one has to. A close is
*honoured* (`Hub.Honoured`) when, in the end, the document shows nothing or shows what was found in
a document taken after the close.

Once a task from the close on has published, the close is honoured whatever follows. What was shown
before the close stays only if none of these tasks publishes. The last of them is never outdated, so
it has then ended for want of something else: it could not find an executable, or it could not find
the document. The latter happens only to the refresh of a timer whose document was closed between
its comparison of versions and its trigger.

## Main definitions

* `Hub.lastPublished`, `Hub.shown` — what was published for a document last.
* `Hub.Honoured` — a close is honoured.
* `Hub.Moment.Misses`, `Hub.Moment.GivesUp` — a refresh ends without a document or an executable.

## Main results

* `Hub.Run.honoured_iff` — when a close is honoured.
* `Hub.Run.ends_without` — how the last task ends that leaves a close without effect.
* `Hub.Run.close_honoured_iff` — the two together.
-/

namespace LintBridge

namespace Hub

variable {h h' mid : Hub} {t : Task} {past future l r ms : List Moment} {c m : Moment}
  {settings : SettingsStore} {d : Document} {k : Nat} {uri : Uri} {ds : List Diagnostic}

/-! ### What is shown -/

/-- The task and the diagnostics of an output, if it is a publication for a document. -/
def publication? (uri : Uri) : HubOutput → Option (Nat × List Diagnostic)
  | .published k u ds _ => if u = uri then some (k, ds) else none
  | _ => none

/-- What was published for a document last: the task and the diagnostics. -/
def lastPublished (uri : Uri) (ms : List Moment) : Option (Nat × List Diagnostic) :=
  ((ms.flatMap Moment.outputs).filterMap (publication? uri)).getLast?

/-- The diagnostics that are shown for a document after a run. -/
def shown (uri : Uri) (ms : List Moment) : List Diagnostic :=
  ((lastPublished uri ms).map Prod.snd).getD []

theorem publisher?_eq_map (uri : Uri) (o : HubOutput) :
    publisher? uri o = (publication? uri o).map Prod.fst := by
  cases o <;> simp only [publisher?, publication?, Option.map_none]
  split <;> rfl

theorem publishers_getLast? (uri : Uri) (ms : List Moment) :
    (publishers uri ms).getLast? = (lastPublished uri ms).map Prod.fst := by
  have hmap : publishers uri ms =
      ((ms.flatMap Moment.outputs).filterMap (publication? uri)).map Prod.fst := by
    rw [publishers, List.map_filterMap]
    exact List.filterMap_congr fun o _ => publisher?_eq_map uri o
  rw [hmap, List.getLast?_map, lastPublished]

/-- What was published last was published at some moment. -/
theorem exists_of_lastPublished (last : lastPublished uri ms = some (k, ds)) :
    ∃ past m future v, ms = past ++ m :: future ∧ .published k uri ds v ∈ m.outputs := by
  have hmem := List.mem_of_getLast? last
  obtain ⟨o, ho, hp⟩ := List.mem_filterMap.mp hmem
  obtain ⟨m, hm, hout⟩ := List.mem_flatMap.mp ho
  obtain ⟨past, future, rfl⟩ := List.append_of_mem hm
  cases o with
  | published k' u ds' v =>
    simp only [publication?] at hp
    split at hp
    · next hu =>
      cases hp
      exact ⟨past, m, future, v, rfl, hu ▸ hout⟩
    · cases hp
  | _ => cases hp

/-- What is shown was published last. -/
theorem lastPublished_of_shown (hne : shown uri ms ≠ []) :
    ∃ k, lastPublished uri ms = some (k, shown uri ms) := by
  unfold shown at hne ⊢
  cases hlast : lastPublished uri ms with
  | none => exact absurd (by rw [hlast]; rfl) hne
  | some p => exact ⟨p.1, rfl⟩

/-! ### The moment of a close -/

theorem notice?_eq_closed (closed : c.notice? = some (.closed uri)) :
    c.move = .event (.document (.closed uri)) := by
  unfold Moment.notice? at closed
  split at closed
  · next e he => rw [he, Option.some.inj closed]
  · cases closed

/-- A close starts a task that takes the diagnostics of the document away. -/
theorem Run.started_of_closed (run : Run (ofSettings settings) (past ++ c :: future) h)
    (closed : c.notice? = some (.closed uri)) :
    ∃ t, c.started = [t] ∧ t.id = c.before.nextTask ∧ t.uri = uri ∧ t.work = .delete := by
  obtain ⟨hpast, legal, -⟩ := run.split
  have ho := hpast.orderly (orderly_ofSettings settings)
  have move := notice?_eq_closed closed
  cases MoveEffect.of_move? legal with
  | begins h₁ same eq _ =>
    have hstarted := started_of_begins ho.toAssigned same eq
    rw [move] at hstarted
    exact ⟨h₁.newTask uri .delete, hstarted, same.nextTask, rfl, rfl⟩
  | steps t a move_eq _ _ =>
    rw [move] at move_eq
    cases move_eq

/-- The last trigger of a document that was closed came with the close or after it. -/
theorem Run.last_since (run : Run (ofSettings settings) (past ++ c :: future) h)
    (closed : c.notice? = some (.closed uri)) :
    ∃ k, (triggers uri (past ++ c :: future)).getLast? = some k ∧ c.before.nextTask ≤ k ∧
      k ∈ triggers uri (c :: future) := by
  obtain ⟨t₀, hstarted, hid₀, hu₀, -⟩ := run.started_of_closed closed
  have ht₀ : t₀ ∈ started (past ++ c :: future) :=
    mem_started_of_mem (m := c) (by simp) (hstarted ▸ List.mem_singleton_self t₀)
  have hne : triggers uri (past ++ c :: future) ≠ [] :=
    List.ne_nil_of_mem (mem_triggers.mpr ⟨t₀, ht₀, hu₀, rfl⟩)
  obtain ⟨k, last⟩ : ∃ k, (triggers uri (past ++ c :: future)).getLast? = some k :=
    ⟨_, List.getLast?_eq_some_getLast hne⟩
  have hle : c.before.nextTask ≤ k := hid₀ ▸ run.le_last last ht₀ hu₀
  obtain ⟨t₁, ht₁, hu₁, hid₁⟩ := mem_triggers.mp (List.mem_of_getLast? last)
  refine ⟨k, last, hle, mem_triggers.mpr ⟨t₁, ?_, hu₁, hid₁⟩⟩
  refine (List.mem_append.mp (started_append ▸ ht₁)).resolve_left fun hpast => ?_
  exact absurd (run.id_lt_of_past hpast) (Nat.not_lt_of_le (hid₁ ▸ hle))

/-- At one of some moments, a task took its document, and the diagnostics were found in it. -/
def IsFoundAt (ms : List Moment) (uri : Uri) (k : Nat) (ds : List Diagnostic) : Prop :=
  ∃ s ∈ ms, ∃ (t : Task) (d : Document) (o : Outcome), t.id = k ∧ t.uri = uri ∧ s.Captures t d ∧
    ds = (o.findings d.text).map .ofFinding

/-- A close is honoured: what is shown for the document in the end, if anything, was found in a
document that was taken after the close. -/
def Honoured (uri : Uri) (past : List Moment) (c : Moment) (future : List Moment) : Prop :=
  ∀ k ds, lastPublished uri (past ++ c :: future) = some (k, ds) →
    ds = [] ∨ IsFoundAt future uri k ds

theorem HasHeard.captured {o : Outcome} (heard : HasHeard t d o ms) : HasCaptured t d ms := by
  obtain ⟨past, m, future, rfl, ⟨l, m', r, rfl, captured, -⟩, -⟩ := heard
  exact (captured.append _).append _

/-- What a task from a moment on has published was found in a document that was taken after that
moment. -/
theorem Run.captured_since (run : Run (ofSettings settings) (past ++ c :: future) h)
    (last : lastPublished uri (past ++ c :: future) = some (k, ds))
    (hle : c.before.nextTask ≤ k) :
    ds = [] ∨ IsFoundAt future uri k ds := by
  obtain ⟨l, m, r, v, hsplit, hp⟩ := exists_of_lastPublished last
  obtain ⟨hpast, legal, -⟩ := (hsplit ▸ run).split
  cases v with
  | none =>
    obtain ⟨t, a, -, step⟩ := m.step_of_output legal hp
    obtain ⟨-, -, -, ⟨-, hds, -⟩ | ⟨target, o, -, -, hv⟩ | ⟨-, hds, -⟩⟩ := step.of_published hp
    · exact .inl hds
    · cases hv
    · exact .inl hds
  | some v =>
    obtain ⟨t, d, o, hid, huri, -, heard, -, hds⟩ := hpast.heard_of_published legal hp
    obtain ⟨l', s, r', hl, begun, captures, -⟩ := heard.captured
    obtain ⟨l₀, b, r₀, hl', hb⟩ := begun
    refine .inr ⟨s, ?_, t, d, o, hid, huri, captures, hds⟩
    have hstarted : t.key ∈ started l' := by
      rw [hl', started_append]
      exact List.mem_append_right _ (List.mem_flatMap.mpr ⟨b, List.mem_cons_self, hb⟩)
    have hsplit' : past ++ c :: future = l' ++ s :: (r' ++ m :: r) := by
      rw [hsplit, hl, List.append_assoc, List.cons_append]
    exact run.mem_future hsplit' hstarted (hid ▸ hle)

/-- **When a close is honoured.** It is, if nothing is shown for the document in the end, or if some
task that was started for it from the close on has published. -/
theorem Run.honoured_iff (run : Run (ofSettings settings) (past ++ c :: future) h)
    (closed : c.notice? = some (.closed uri)) :
    Honoured uri past c future ↔ shown uri (past ++ c :: future) = [] ∨
      ∃ k ∈ triggers uri (c :: future), k ∈ publishers uri (past ++ c :: future) := by
  obtain ⟨t₀, hstarted, hid₀, hu₀, -⟩ := run.started_of_closed closed
  have publisher {k : Nat} {ds : List Diagnostic}
      (last : lastPublished uri (past ++ c :: future) = some (k, ds)) :
      (publishers uri (past ++ c :: future)).getLast? = some k := by
    rw [publishers_getLast?, last, Option.map_some]
  constructor
  · intro honoured
    by_cases hne : shown uri (past ++ c :: future) = []
    · exact .inl hne
    obtain ⟨k, last⟩ := lastPublished_of_shown hne
    have hpub := List.mem_of_getLast? (publisher last)
    refine .inr ⟨k, ?_, hpub⟩
    obtain hnil | ⟨s, hs, t, d, o, rfl, rfl, captures, -⟩ := honoured k _ last
    · exact absurd hnil hne
    have htrigger := run.publishers_subset t.uri hpub
    rw [triggers_append] at htrigger
    refine (List.mem_append.mp htrigger).resolve_left fun hpast => ?_
    -- The close has overtaken a task that was started before.
    obtain ⟨t₁, ht₁, -, hid₁⟩ := mem_triggers.mp hpast
    have hlt := run.id_lt_of_past ht₁
    obtain ⟨between, rest, rfl⟩ := List.append_of_mem hs
    rw [← List.cons_append, ← List.append_assoc] at run hpub
    refine run.not_published_of_overtaken captures ⟨t₀, ?_, hu₀, by omega⟩ hpub
    rw [started_append]
    refine List.mem_append_right _ (List.mem_flatMap.mpr ⟨c, List.mem_cons_self, ?_⟩)
    rw [hstarted]
    exact List.mem_singleton_self t₀
  · rintro (hnil | ⟨k₀, htrigger, hpub⟩) k ds last
    · refine .inl ?_
      rwa [shown, last] at hnil
    · obtain ⟨t, ht, -, rfl⟩ := mem_triggers.mp htrigger
      have hle := le_of_getLast? (run.sequenced uri).sorted (publisher last) hpub
      exact run.captured_since last (Nat.le_trans (run.le_id_of_future ht) hle)

/-- If the document is not opened again, an honoured close leaves nothing to be shown. -/
theorem Honoured.shown_eq_nil (honoured : Honoured uri past c future)
    (absent : ∀ m ∈ future, m.before.documents.get? uri = none) :
    shown uri (past ++ c :: future) = [] := by
  by_contra hne
  obtain ⟨k, last⟩ := lastPublished_of_shown hne
  obtain hnil | ⟨s, hs, t, d, o, -, rfl, captures, -⟩ := honoured k _ last
  · exact hne hnil
  · exact absurd ((absent s hs).symm.trans captures.2.2.1) nofun

/-! ### How a close is lost -/

/-- At the moment, a refresh ends because its document is not open. -/
def Moment.Misses (m : Moment) (k : Nat) : Prop :=
  ∃ t a, m.before.task? k = some t ∧ t.stage = .looking ∧ m.move = .event (.advance k a) ∧
    m.before.documents.get? t.uri = none

/-- At the moment, a refresh ends because no executable was found. -/
def Moment.GivesUp (m : Moment) (k : Nat) : Prop :=
  ∃ t a d folders, m.before.task? k = some t ∧ t.stage = .locating d folders (.done none) ∧
    m.move = .event (.advance k a)

/-- The last step of a task is a comparison, a publication, the end of a removal, or the end of a
refresh that has no document or no executable. -/
theorem TaskStep.fate {a : Answer} {outs : List HubOutput} (step : TaskStep h t a h' outs)
    (known : h.task? t.id = some t) (gone : h'.task? t.id = none) :
    t.stage.IsComparison ∨ t.stage = .forgetting ∨ (∃ ds v, .published t.id t.uri ds v ∈ outs) ∨
      (t.stage = .looking ∧ h.documents.get? t.uri = none) ∨
      ∃ d folders, t.stage = .locating d folders (.done none) := by
  have stays {h₁ : Hub} {s : Stage} (same : h₁.tasks = h.tasks)
      (gone : (h₁.moveTo t.id s).task? t.id = none) : False := by
    have hsome : h₁.task? t.id = some t := by rwa [task?, same]
    rw [task?_moveTo hsome] at gone
    cases gone
  cases step with
  | skip _ stage | discard _ _ _ stage => exact .inl (stage ▸ trivial)
  | forget _ stage => exact .inr (.inl stage)
  | clear | publish => exact .inr (.inr (.inl ⟨_, _, List.mem_singleton_self _⟩))
  | miss _ stage missing => exact .inr (.inr (.inr (.inl ⟨stage, missing⟩)))
  | giveUp _ d folders stage => exact .inr (.inr (.inr (.inr ⟨d, folders, stage⟩)))
  | record _ target o _ => exact (stays (sameTurns_record target o).tasks gone).elim
  | _ => exact (stays rfl gone).elim

/-- A task that has ended, though not at a comparison, has published or has ended without a document
or an executable. -/
theorem Run.fate (run : Run (ofSettings settings) (l ++ m :: r) h) (ends : m.Ends k)
    (compares : ¬ m.Compares k) :
    ∃ t, m.before.task? k = some t ∧
      (k ∈ publishers t.uri (l ++ m :: r) ∨ m.Misses k ∨ m.GivesUp k) := by
  obtain ⟨hpast, legal, -⟩ := run.split
  have ho := hpast.orderly (orderly_ofSettings settings)
  obtain ⟨hsome, hnone⟩ := ends
  obtain ⟨t, ht⟩ := Option.isSome_iff_exists.mp hsome
  refine ⟨t, ht, ?_⟩
  have published {m' : Moment} {ds : List Diagnostic} {v : Option Int} (hm' : m' ∈ l ++ m :: r)
      (hp : .published k t.uri ds v ∈ m'.outputs) : k ∈ publishers t.uri (l ++ m :: r) :=
    mem_publishers.mpr ⟨m', hm', ds, v, hp⟩
  have here : m ∈ l ++ m :: r := List.mem_append_right _ List.mem_cons_self
  cases MoveEffect.of_move? legal with
  | begins h₁ same eq _ =>
    rw [task?_of_begins ho.toWellKept same eq ht] at hnone
    cases hnone
  | steps t₁ a move_eq known step =>
    by_cases hid : k = t₁.id
    · subst hid
      obtain rfl := Option.some.inj (known.symm.trans ht)
      rcases step.fate known hnone with comparison | stage | ⟨ds, v, hp⟩ | ⟨stage, missing⟩ |
        ⟨d, folders, stage⟩
      · exact absurd ⟨t₁, a, known, comparison, move_eq⟩ compares
      · have account := (hpast.account (mem_of_task? known).1).2
        rw [stage] at account
        obtain ⟨l', m', r', rfl, hp⟩ := account
        exact .inl (published (by simp) hp)
      · exact .inl (published here hp)
      · exact .inr (.inl ⟨t₁, a, known, stage, move_eq, missing⟩)
      · exact .inr (.inr ⟨t₁, a, d, folders, known, stage, move_eq⟩)
    · rw [step.effect.task?_of_ne hid, ht] at hnone
      cases hnone

/-- A document goes away only at a close. -/
theorem Run.closed_of_gone (run : Run mid l h) (before : (mid.documents.get? uri).isSome)
    (after : h.documents.get? uri = none) : ∃ m ∈ l, m.notice? = some (.closed uri) := by
  induction run with
  | stay =>
    rw [after] at before
    cases before
  | next m past legal ih =>
    rename_i l
    cases hget : m.before.documents.get? uri with
    | none =>
      obtain ⟨m', hm', closed⟩ := ih hget
      exact ⟨m', List.mem_append_left _ hm', closed⟩
    | some d =>
      refine ⟨m, List.mem_append_right _ (List.mem_singleton_self m), ?_⟩
      rw [Moment.documents legal] at after
      cases hn : m.notice? with
      | none =>
        rw [hn] at after
        exact absurd (hget.symm.trans after) nofun
      | some e =>
        rw [hn] at after
        rw [Documents.eq_closed_of_get?_apply (by rw [hget]; rfl) after]

/-- The move is something that happens at the hub, not a trigger from outside. -/
def Move.isEvent : Move → Bool
  | .event _ => true
  | .call _ _ => false

theorem Move.isEvent_iff {move : Move} : move.isEvent ↔ ∃ e, move = .event e := by
  cases move <;> simp [isEvent]

/-- Only a timer starts a refresh of a document that is not open. -/
theorem Moment.fires (legal : m.IsLegal) (ho : m.before.Orderly) (event : m.move.isEvent)
    (ht : t ∈ m.started) (work : t.work = .refresh) (gone : m.after.documents.get? t.uri = none) :
    ∃ timer, m.move = .event (.fire timer) := by
  obtain ⟨e, move⟩ := Move.isEvent_iff.mp event
  have hdocs := Moment.documents legal
  rw [Moment.notice?, move] at hdocs
  cases MoveEffect.of_move? legal with
  | steps t₁ a _ _ step =>
    rw [started_of_shrinks ho.toAssigned step.effect.shrinks] at ht
    exact absurd ht List.not_mem_nil
  | begins h₁ same eq _ =>
    rw [started_of_begins ho.toAssigned same eq, move] at ht
    have hcall := mem_of_mem_newTasks ht
    rw [work] at hcall
    rw [hdocs] at gone
    have absent {ds : Documents} (hds : ds.get? t.uri = none) : ¬ (ds.get? t.uri).isSome := by
      simp [hds]
    cases e with
    | fire timer => exact ⟨timer, move⟩
    | document e =>
      simp only [callsOf] at hcall
      split at hcall
      · next u htrigger =>
        obtain rfl : t.uri = u := by simpa using hcall
        exact absurd (Documents.isSome_of_trigger htrigger) (absent gone)
      · simp at hcall
      · exact absurd hcall List.not_mem_nil
    | focus u =>
      simp only [callsOf] at hcall
      split at hcall
      · next hsome =>
        obtain rfl : t.uri = u := by simpa using hcall
        exact absurd hsome (absent gone)
      · exact absurd hcall List.not_mem_nil
    | configure payload =>
      obtain ⟨u, hu, heq⟩ := List.mem_map.mp hcall
      obtain rfl : u = t.uri := congrArg Prod.fst heq
      exact absurd (Documents.isSome_of_mem_uris hu) (absent gone)
    | folders | elapse | advance => exact absurd hcall List.not_mem_nil

/-- The last refresh of a document that finds it closed was started by a timer, after the close. -/
theorem Run.fired_of_misses (run : Run (ofSettings settings) (l ++ m :: r) h)
    (events : ∀ m' ∈ l ++ m :: r, m'.move.isEvent)
    (last : (triggers t.uri (l ++ m :: r)).getLast? = some t.id)
    (known : m.before.task? t.id = some t) (stage : t.stage = .looking)
    (missing : m.before.documents.get? t.uri = none) :
    ∃ b ∈ l, (∃ timer, b.move = .event (.fire timer)) ∧ t.key ∈ b.started := by
  obtain ⟨hpast, -, -⟩ := run.split
  obtain ⟨begun, account⟩ := hpast.account (mem_of_task? known).1
  rw [stage] at account
  obtain ⟨l₁, b, l₂, rfl, hb⟩ := begun
  obtain ⟨hbefore, legal, hafter⟩ := hpast.split
  refine ⟨b, List.mem_append_right _ List.mem_cons_self, ?_, hb⟩
  have hevent := events b (by simp)
  refine Moment.fires legal (hbefore.orderly (orderly_ofSettings settings)) hevent hb account ?_
  by_contra hopen
  -- The document was there and has gone, so it was closed, and the close came after the trigger.
  obtain ⟨m', hm', closed⟩ := hafter.closed_of_gone (Option.isSome_iff_ne_none.mpr hopen) missing
  obtain ⟨l₃, l₄, rfl⟩ := List.append_of_mem hm'
  have hsplit : (l₁ ++ b :: (l₃ ++ m' :: l₄)) ++ m :: r =
      (l₁ ++ b :: l₃) ++ m' :: (l₄ ++ m :: r) := by simp
  rw [hsplit] at run last
  obtain ⟨t', hstarted, hid', hu', -⟩ := run.started_of_closed closed
  have ht' : t' ∈ started ((l₁ ++ b :: l₃) ++ m' :: (l₄ ++ m :: r)) :=
    mem_started_of_mem (m := m') (by simp) (hstarted ▸ List.mem_singleton_self t')
  have hle := run.le_last last ht' hu'
  have hlt := run.id_lt_of_past (mem_started_of_mem (m := b) (by simp) hb)
  exact absurd hlt (Nat.not_lt_of_le (hid' ▸ hle))

/-- **How a close is lost.** When all tasks have ended and none of those that were started for the
document from the close on has published, the last of them has found no executable; or it was
started by a timer after the close and has found no document. -/
theorem Run.ends_without (run : Run (ofSettings settings) (past ++ c :: future) h)
    (events : ∀ m ∈ past ++ c :: future, m.move.isEvent)
    (closed : c.notice? = some (.closed uri)) (rest : h.tasks = [])
    (lost : ∀ k ∈ triggers uri (c :: future), k ∉ publishers uri (past ++ c :: future)) :
    ∃ k, (triggers uri (past ++ c :: future)).getLast? = some k ∧ ∃ m ∈ future, m.GivesUp k ∨
      m.Misses k ∧ ∃ b ∈ future, (∃ timer, b.move = .event (.fire timer)) ∧
        k ∈ b.started.map Task.id := by
  obtain ⟨k, last, hle, htrigger⟩ := run.last_since closed
  have gone : h.task? k = none := by rw [task?, rest]; rfl
  obtain ⟨m, hm, ends⟩ := run.ends_of_started (List.mem_of_getLast? last) gone
  have compares : ¬ m.Compares k := fun compares => (run.last_passes last hm compares).not_ends ends
  obtain ⟨l, r, split⟩ := List.append_of_mem hm
  obtain ⟨t, known, fate⟩ := (split ▸ run).fate ends compares
  obtain ⟨hmem, rfl⟩ := mem_of_task? known
  have hkey : t.key ∈ started l := (split ▸ run).split.1.ledger.known t hmem
  have hall : t.key ∈ started (past ++ c :: future) :=
    split ▸ started_append ▸ List.mem_append_left _ hkey
  have huri : t.uri = uri := run.uri_of_mem_triggers hall (List.mem_of_getLast? last)
  refine ⟨t.id, last, m, run.mem_future split hkey hle, ?_⟩
  rcases fate with published | misses | givesUp
  · rw [huri, ← split] at published
    exact absurd published (lost t.id htrigger)
  · refine .inr ⟨misses, ?_⟩
    obtain ⟨t', a, known', stage, -, missing⟩ := misses
    obtain rfl := Option.some.inj (known.symm.trans known')
    obtain ⟨b, hb, ⟨timer, move⟩, hstart⟩ := (split ▸ run).fired_of_misses (split ▸ events)
      (split ▸ huri.symm ▸ last) known stage missing
    refine ⟨b, ?_, ⟨timer, move⟩, List.mem_map.mpr ⟨t.key, hstart, rfl⟩⟩
    have hmoment : b ∈ past ++ c :: future := split ▸ List.mem_append_left _ hb
    rcases List.mem_append.mp hmoment with hpast | hfuture
    · have hlt := run.id_lt_of_past (mem_started_of_mem hpast hstart)
      exact absurd hlt (Nat.not_lt_of_le hle)
    · refine (List.mem_cons.mp hfuture).resolve_left ?_
      rintro rfl
      rw [notice?_eq_closed closed] at move
      cases move
  · exact .inl givesUp

/-- **When a close is lost.** For every run of events and every close of a document in it, when no
task is pending:

1. the close is honoured if and only if nothing is shown for the document, or some task that was
   started for it from the close on has published;
2. if it is not, the last task of the document has ended without publishing, because no executable
   was found, or because the document was not open; and then the task was started after the close,
   by a timer;
3. if the document was not opened again, the close is honoured if and only if nothing is shown. -/
theorem Run.close_honoured_iff (run : Run (ofSettings settings) (past ++ c :: future) h)
    (events : ∀ m ∈ past ++ c :: future, m.move.isEvent)
    (closed : c.notice? = some (.closed uri)) (rest : h.tasks = []) :
    (Honoured uri past c future ↔ shown uri (past ++ c :: future) = [] ∨
      ∃ k ∈ triggers uri (c :: future), k ∈ publishers uri (past ++ c :: future)) ∧
    (¬ Honoured uri past c future →
      ∃ k, (triggers uri (past ++ c :: future)).getLast? = some k ∧ ∃ m ∈ future, m.GivesUp k ∨
        m.Misses k ∧ ∃ b ∈ future, (∃ timer, b.move = .event (.fire timer)) ∧
          k ∈ b.started.map Task.id) ∧
    ((∀ m ∈ future, m.before.documents.get? uri = none) →
      (Honoured uri past c future ↔ shown uri (past ++ c :: future) = [])) := by
  have honoured := run.honoured_iff closed
  refine ⟨honoured, ?_, ?_⟩
  · intro lost
    refine run.ends_without events closed rest fun k htrigger hpub => ?_
    exact lost (honoured.mpr (.inr ⟨k, htrigger, hpub⟩))
  · intro absent
    exact ⟨fun h => h.shown_eq_nil absent, fun h => honoured.mpr (.inl h)⟩

theorem opening_honoured : ∃ past c future h,
    Run (ofSettings .inMemory) (past ++ c :: future) h ∧ c.notice? = some (.closed draft) ∧
    Honoured draft past c future := by
  have seen : ((ofSettings .inMemory).follow reopening).map (fun p =>
      ((p.1.drop 1).head?.map Moment.notice?, p.1.all fun m => m.move.isEvent, p.2.tasks,
        triggers draft (p.1.drop 1), publishers draft p.1)) =
        some (some (some (.closed draft)), true, [], [1, 2], [1, 2]) := by rfl
  obtain ⟨ms, h, run, -, seen⟩ := Run.exists_of_follow seen
  simp only [Prod.mk.injEq] at seen
  obtain ⟨hclose, hevents, hrest, htriggers, hpublishers⟩ := seen
  obtain ⟨past, c, future, hms, hdrop, closed⟩ := exists_append_cons hclose
  rw [hdrop] at htriggers
  subst hms
  refine ⟨past, c, future, h, run, closed, ?_⟩
  refine (run.close_honoured_iff (List.all_eq_true.mp hevents) closed hrest).1.mpr
    (.inr ⟨1, ?_, ?_⟩)
  · rw [htriggers]
    exact List.mem_cons_self
  · rw [hpublishers]
    exact List.mem_cons_self

/-- A store of settings under which documents are linted while they are edited. -/
def eager : SettingsStore := ⟨none, [], [(Settings.lintOnChangeKey, .bool true)]⟩

/-- A draft with a problem that is edited, left alone for a while and then closed just before the
timer starts its task. -/
def lateTimer : List Move :=
  [openDraft 1] ++ takes 0 (lintAnswers (.problems [⟨1, "no good"⟩])) ++
    [.event (.document (.changed draft 2 ["good"])), .event (.elapse 0), closeDraft,
      .event (.fire 0)] ++
    takes 1 (List.replicate 2 .nothing) ++ takes 2 (List.replicate 3 .nothing)

/-- A close can be lost: the document is closed, no task is pending, and the problem that was found
before the close is still shown. -/
theorem lateTimer_not_honoured : ∃ past c future h,
    Run (ofSettings eager) (past ++ c :: future) h ∧
    (∀ m ∈ past ++ c :: future, m.move.isEvent) ∧ c.notice? = some (.closed draft) ∧
    h.tasks = [] ∧ h.documents.get? draft = none ∧
    shown draft (past ++ c :: future) = [⟨⟨⟨0, 0⟩, ⟨0, 12⟩⟩, "no good"⟩] ∧
    ¬ Honoured draft past c future := by
  have seen : ((ofSettings eager).follow lateTimer).map (fun p =>
      ((p.1.drop 15).head?.map Moment.notice?, p.1.all fun m => m.move.isEvent, p.2.tasks,
        p.2.documents.get? draft, shown draft p.1, triggers draft (p.1.drop 15),
        publishers draft p.1)) =
        some (some (some (.closed draft)), true, [], none, [⟨⟨⟨0, 0⟩, ⟨0, 12⟩⟩, "no good"⟩],
          [1, 2], [0]) := by rfl
  obtain ⟨ms, h, run, -, seen⟩ := Run.exists_of_follow seen
  simp only [Prod.mk.injEq] at seen
  obtain ⟨hclose, hevents, htasks, hgone, shows, htriggers, hpublishers⟩ := seen
  obtain ⟨past, c, future, hms, hdrop, closed⟩ := exists_append_cons hclose
  rw [hdrop] at htriggers
  subst hms
  refine ⟨past, c, future, h, run, List.all_eq_true.mp hevents, closed, htasks, hgone, shows, ?_⟩
  rw [run.honoured_iff closed, shows, htriggers, hpublishers]
  decide

end Hub

end LintBridge
