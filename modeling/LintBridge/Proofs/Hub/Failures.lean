import LintBridge.Proofs.Hub.Progress
import LintBridge.Proofs.Hub.Sequence
import LintBridge.Proofs.Report.LineTable

/-!
# Failures that are shown

A result that passes the last comparison of generations is compared with the failure that was shown
last. All documents share this record, and their tasks come to it in any order. So whether a failure
is shown depends on the results that came to the record before, whichever documents they are for:
among these the last one counts that is not a failure to hand the buffer over.

For one task the way of a result is a matter of what the task still has to tell (`Hub.Standing`): at
first nothing was told, then the task holds a result that has passed, and then it owes what follows
from the result, namely the failure if it is to be shown, and the diagnostics. What was told and
what is owed together stay the same from then on, which is what the induction over a run carries
(`Hub.Reckoning`).

That a task takes its next step at all is not among the results here; that it can do so is.

## Main definitions

* `Hub.Result` — what a refresh has found.
* `Hub.accepted`, `Hub.recorded` — the results that passed the last comparison, and those that came
  to the record.
* `Hub.heard` — the outcomes that the record depends on.
* `Hub.reports` — what a task has told.

## Main results

* `Hub.Telling.of_step` — what a step of a task means for results.
* `Hub.Run.lastFailure_eq_some_iff` — the record after any run.
* `Hub.Run.failures_told` — which failures are shown, and what is published.
-/

namespace LintBridge

/-- The buffer could not be handed over. -/
def Outcome.isTransportFailure : Outcome → Bool
  | .transportFailure _ => true
  | _ => false

namespace Hub

/-- What a refresh has found. -/
structure Result where
  task : Nat
  uri : Uri
  target : LintTarget
  outcome : Outcome

/-- What is published for a result. -/
def Result.publication (r : Result) : HubOutput :=
  .published r.task r.uri (diagnosticsOf r.target r.outcome) (some r.target.version)

/-- What is told of a result. -/
def Result.tale (r : Result) (shown : Option String) : List HubOutput :=
  shown.toList.map (.complained r.task) ++ [r.publication]

/-- The outcomes of results that are no failures to hand the buffer over. -/
def heard (rs : List Result) : List Outcome :=
  (rs.map Result.outcome).filter fun o => !o.isTransportFailure

/-- What a task still has to tell. -/
inductive Standing where
  /-- The task has told nothing of a document yet. -/
  | silent
  /-- The task has a result that has passed. -/
  | holds (r : Result)
  /-- The task is to tell what is left. -/
  | owes (left : List HubOutput)

/-- The result that a task holds. -/
def Standing.held? : Standing → Option Result
  | .holds r => some r
  | _ => none

theorem Standing.holds_of_held? {s : Standing} {r : Result} (held : s.held? = some r) :
    s = .holds r := by
  cases s with
  | holds => exact congrArg Standing.holds (Option.some.inj held)
  | silent | owes => cases held

/-- What a task owes. -/
def Standing.due : Standing → List HubOutput
  | .owes left => left
  | _ => []

theorem Standing.owes_of_due {s : Standing} {o : HubOutput} {left : List HubOutput}
    (due : s.due = o :: left) : s = .owes (o :: left) := by
  cases s with
  | owes => exact congrArg Standing.owes due
  | silent | holds => cases due

end Hub

open Hub in
/-- What a task still has to tell, by its stage. -/
def Task.standing (t : Task) : Standing :=
  match t.stage with
  | .recording target o => .holds ⟨t.id, t.uri, target, o⟩
  | .complaining target o message =>
    .owes [.complained t.id message, Result.publication ⟨t.id, t.uri, target, o⟩]
  | .publishing target o => .owes [Result.publication ⟨t.id, t.uri, target, o⟩]
  | .forgetting => .owes []
  | _ => .silent

/-- An output that tells of a failure or of a document, by one task. -/
def HubOutput.isReportOf (k : Nat) : HubOutput → Bool
  | .complained j _ => j = k
  | .published j _ _ _ => j = k
  | _ => false

namespace Hub

variable {h h' h₁ : Hub} {t : Task} {a : Answer} {outs : List HubOutput} {ms : List Moment}
  {m : Moment} {k : Nat} {r : Result} {s : Standing} {settings : SettingsStore}

/-- What a task still has to tell. Tasks that are still to come have told nothing, and those that
have ended owe nothing. -/
def standing (h : Hub) (k : Nat) : Standing :=
  match h.task? k with
  | some t => t.standing
  | none => if k < h.nextTask then .owes [] else .silent

/-- The result with which a task passes its last comparison of generations, if its next step is that
one. -/
def passing? (h : Hub) (t : Task) : Option Result :=
  match t.stage with
  | .judging target o =>
    if h.isCurrent t.slot t.generation then some ⟨t.id, t.uri, target, o⟩ else none
  | _ => none

/-! ### What is told in a run -/

/-- The task that takes a step at a moment. -/
def Moment.mover? (m : Moment) : Option Task :=
  match m.move with
  | .event (.advance k _) => m.before.task? k
  | _ => none

/-- The result that passes its last comparison at a moment. -/
def Moment.accepted? (m : Moment) : Option Result := m.mover?.bind m.before.passing?

/-- The result that is compared with the last failure at a moment. -/
def Moment.recorded? (m : Moment) : Option Result := m.mover?.bind fun t => t.standing.held?

/-- The results that passed their last comparison in a run, in order. -/
def accepted (ms : List Moment) : List Result := ms.filterMap Moment.accepted?

/-- The results that were compared with the last failure in a run, in order. -/
def recorded (ms : List Moment) : List Result := ms.filterMap Moment.recorded?

/-- What a task has told in a run, in order. -/
def reports (k : Nat) (ms : List Moment) : List HubOutput :=
  (ms.flatMap Moment.outputs).filter (HubOutput.isReportOf k)

theorem accepted_append (ms ms' : List Moment) :
    accepted (ms ++ ms') = accepted ms ++ accepted ms' := List.filterMap_append

theorem recorded_append (ms ms' : List Moment) :
    recorded (ms ++ ms') = recorded ms ++ recorded ms' := List.filterMap_append

theorem reports_append (k : Nat) (ms ms' : List Moment) :
    reports k (ms ++ ms') = reports k ms ++ reports k ms' := by
  simp [reports]

theorem accepted_concat : accepted (ms ++ [m]) = accepted ms ++ m.accepted?.toList := by
  cases hm : m.accepted? <;> simp [accepted, hm]

theorem recorded_concat : recorded (ms ++ [m]) = recorded ms ++ m.recorded?.toList := by
  cases hm : m.recorded? <;> simp [recorded, hm]

theorem reports_concat :
    reports k (ms ++ [m]) = reports k ms ++ m.outputs.filter (HubOutput.isReportOf k) := by
  simp [reports]

/-! ### The standing of a task -/

theorem standing_of_task? (known : h.task? k = some t) : h.standing k = t.standing := by
  rw [standing, known]

theorem standing_moveTo (known : h.task? k = some t) (s : Stage) :
    (h.moveTo k s).standing k = { t with stage := s }.standing :=
  standing_of_task? (task?_moveTo known s)

/-- A task that has ended owes nothing. -/
theorem standing_finish (begun : t.id < h.nextTask) : (h.finish t).standing t.id = .owes [] := by
  have gone : (h.finish t).task? t.id = none := by
    simp only [task?, List.find?_eq_none, decide_eq_true_eq]
    exact fun t' ht' => (mem_tasks_finish.mp ht').2
  rw [standing, gone]
  exact if_pos begun

/-- A step of a task is no matter of the other tasks. -/
theorem TaskStep.standing_of_ne (step : TaskStep h t a h' outs) (hne : k ≠ t.id) :
    h'.standing k = h.standing k := by
  rw [standing, step.effect.task?_of_ne hne, step.effect.shrinks.nextTask, standing]

/-- A task tells in its own name. -/
theorem TaskStep.reports_of_ne (step : TaskStep h t a h' outs) (hne : k ≠ t.id) :
    outs.filter (HubOutput.isReportOf k) = [] := by
  cases step <;> simp [HubOutput.isReportOf, Ne.symm hne]

/-! ### What a step means for results -/

/-- What a step of a task means for what it tells. -/
inductive Telling (h : Hub) (t : Task) (h' : Hub) (outs : List HubOutput) : Prop where
  /-- A result passes the last comparison. -/
  | passes (r : Result) (passing : h.passing? t = some r) (before : t.standing = .silent)
      (after : h'.standing t.id = .holds r) (silent : outs = [])
  /-- A result is compared with the last failure. -/
  | records (r : Result) (shown : Option String) (before : t.standing = .holds r)
      (after : h'.standing t.id = .owes (r.tale shown)) (silent : outs = [])
      (news : ∀ message, shown = some message ↔
        r.outcome = .toolFailure message ∧ h.lastFailure ≠ some message)
      (record : ∀ message, h'.lastFailure = some message ↔ r.outcome = .toolFailure message ∨
        r.outcome.isTransportFailure ∧ h.lastFailure = some message)
  /-- The task tells the next of what it owes. -/
  | tells (o : HubOutput) (left : List HubOutput) (before : t.standing = .owes (o :: left))
      (after : h'.standing t.id = .owes left) (told : outs = [o])
  /-- The task goes on and tells nothing. -/
  | goesOn (passing : h.passing? t = none) (before : t.standing = .silent)
      (after : h'.standing t.id = .silent) (silent : outs.filter (HubOutput.isReportOf t.id) = [])
  /-- The task ends without a result, or has nothing left to tell. It shows no failure. -/
  | ends (passing : h.passing? t = none) (before : t.standing = .silent)
      (after : h'.standing t.id = .owes []) (mild : ∀ k message, .complained k message ∉ outs)
  /-- A task that owes nothing ends. -/
  | forgets (before : t.standing = .owes []) (after : h'.standing t.id = .owes [])
      (silent : outs = [])

/-- What the record makes of a result. -/
private theorem Telling.of_record (known : h.task? t.id = some t) {target : LintTarget}
    {o : Outcome} (stage : t.stage = .recording target o) :
    Telling h t ((h.record target o).1.moveTo t.id (h.record target o).2) [] := by
  have before : t.standing = .holds ⟨t.id, t.uri, target, o⟩ := by rw [Task.standing, stage]
  have known' : (h.record target o).1.task? t.id = some t := by
    rw [task?, (sameTurns_record target o).tasks, ← task?, known]
  have after := standing_moveTo known' (h.record target o).2
  cases o with
  | toolFailure message =>
    by_cases same : h.lastFailure = some message
    · have eq : h.record target (.toolFailure message) =
          (h, .publishing target (.toolFailure message)) := if_pos same
      rw [eq] at after ⊢
      exact .records _ none before after rfl (by simp [same])
        (by simp [same, moveTo, Outcome.isTransportFailure])
    · have eq : h.record target (.toolFailure message) =
          ({ h with lastFailure := some message },
            .complaining target (.toolFailure message) message) := if_neg same
      rw [eq] at after ⊢
      refine .records _ (some message) before after rfl (fun message' => ⟨?_, ?_⟩)
        (by simp [moveTo, Outcome.isTransportFailure])
      · rintro ⟨⟩
        exact ⟨rfl, same⟩
      · rintro ⟨⟨⟩, -⟩
        rfl
  | transportFailure =>
    exact .records _ none before after rfl (by simp)
      (by simp [record, moveTo, Outcome.isTransportFailure])
  | clean | problems =>
    exact .records _ none before after rfl (by simp)
      (by simp [record, moveTo, Outcome.isTransportFailure])

/-- **What a step of a task means for results.** -/
theorem Telling.of_step (known : h.task? t.id = some t) (begun : t.id < h.nextTask)
    (step : TaskStep h t a h' outs) : Telling h t h' outs := by
  have apart {s : Stage} (stage : t.stage = s) (unjudged : ∀ target o, s ≠ .judging target o) :
      h.passing? t = none := by
    unfold passing?
    split
    · next judging => exact absurd (stage.symm.trans judging) (unjudged _ _)
    · rfl
  have silent {s : Stage} (stage : t.stage = s)
      (silent : ({ t with stage := s } : Task).standing = .silent) : t.standing = .silent := by
    rw [← silent, ← stage]
  have ended : (h.finish t).standing t.id = .owes [] := standing_finish begun
  cases step with
  | enter _ stage =>
    exact .goesOn (apart stage nofun) (silent stage rfl) (standing_moveTo known .admitted) rfl
  | look _ stage | capture _ _ stage | reject _ _ stage | gather _ _ stage | equip _ _ _ _ stage
  | launch _ _ _ _ stage | collect _ _ _ stage | remove _ stage =>
    exact .goesOn (apart stage nofun) (silent stage rfl) (standing_moveTo known _) rfl
  | locate _ _ _ _ _ _ _ stage =>
    refine .goesOn (apart stage nofun) (silent stage rfl) (standing_moveTo known _) ?_
    simp [HubOutput.isReportOf]
  | skip _ stage | miss _ stage | giveUp _ _ _ stage =>
    exact .ends (apart stage nofun) (silent stage rfl) ended fun _ _ => List.not_mem_nil
  | clear _ stage => exact .ends (apart stage nofun) (silent stage rfl) ended (by simp)
  | delete _ stage =>
    exact .ends (apart stage nofun) (silent stage rfl) (standing_moveTo known _) (by simp)
  | accept _ target o stage current =>
    refine .passes _ ?_ (silent stage rfl) (standing_moveTo known _) rfl
    simp only [passing?, stage]
    exact if_pos current
  | discard _ target o stage stale =>
    refine .ends ?_ (silent stage rfl) ended fun _ _ => List.not_mem_nil
    simp only [passing?, stage]
    exact if_neg stale
  | record _ target o stage => exact .of_record known stage
  | complain _ target o message stage =>
    refine .tells _ _ ?_ (standing_moveTo known _) rfl
    rw [Task.standing, stage]
  | publish _ target o stage =>
    refine .tells _ _ ?_ ended rfl
    rw [Task.standing, stage]
    rfl
  | forget _ stage =>
    refine .forgets (by rw [Task.standing, stage]) ?_ rfl
    exact standing_finish (by rw [nextTask_forget]; exact begun)

theorem task_of_passing? (passing : h.passing? t = some r) : r.task = t.id := by
  unfold passing? at passing
  split at passing
  · split at passing
    · cases passing
      rfl
    · cases passing
  · cases passing

theorem passing?_eq_none (told : t.standing ≠ .silent) : h.passing? t = none := by
  unfold passing?
  split
  · next stage => exact absurd (by rw [Task.standing, stage]) told
  · rfl

theorem task_of_holds (holds : t.standing = .holds r) : r.task = t.id := by
  unfold Task.standing at holds
  split at holds <;> cases holds
  rfl

/-- Only a task that holds a result changes the record. -/
theorem TaskStep.lastFailure (step : TaskStep h t a h' outs) (unheld : t.standing.held? = none) :
    h'.lastFailure = h.lastFailure := by
  cases step with
  | record _ target o stage =>
    rw [Task.standing, stage] at unheld
    cases unheld
  | forget =>
    simp only [finish, changeSlot]
    unfold Hub.forget
    split <;> rfl
  | _ => rfl

/-- Only the steps of tasks change the record. -/
theorem lastFailure_of_move? {move : Move} (hm : h.move? move = some (h', outs))
    (other : ∀ k a, move ≠ .event (.advance k a)) : h'.lastFailure = h.lastFailure := by
  have begin (h : Hub) (uri : Uri) (work : Work) :
      (h.begin uri work).lastFailure = h.lastFailure := by
    have hslot : (h.withSlot uri).1.lastFailure = h.lastFailure := by
      unfold withSlot
      split <;> rfl
    exact hslot
  exact eq_of_move? Hub.lastFailure begin (fun _ _ => rfl) (fun _ _ => rfl) (fun _ _ _ => rfl)
    (fun _ _ => rfl) hm other

/-! ### What has come of a task -/

/-- The results of one task. -/
def resultsOf (k : Nat) (rs : List Result) : List Result := rs.filter fun r => r.task = k

/-- What has come of a task in a run, by what it still has to tell. -/
inductive Reckoning (ms : List Moment) (k : Nat) : Standing → Prop where
  /-- Nothing was told. -/
  | silent (unpassed : resultsOf k (accepted ms) = []) (unrecorded : resultsOf k (recorded ms) = [])
      (quiet : reports k ms = []) : Reckoning ms k .silent
  /-- A result has passed, and nothing was told. -/
  | holds (r : Result) (passed : resultsOf k (accepted ms) = [r])
      (unrecorded : resultsOf k (recorded ms) = []) (quiet : reports k ms = []) :
      Reckoning ms k (.holds r)
  /-- The task is not one with a result, and shows no failure. -/
  | apart (unpassed : resultsOf k (accepted ms) = []) (unrecorded : resultsOf k (recorded ms) = [])
      (mild : ∀ message, .complained k message ∉ reports k ms) : Reckoning ms k (.owes [])
  /-- A result has come to the record. What was told and what is left are its whole tale. -/
  | told (r : Result) (earlier later : List Result) (left : List HubOutput) (shown : Option String)
      (passed : resultsOf k (accepted ms) = [r]) (split : recorded ms = earlier ++ r :: later)
      (once : resultsOf k (recorded ms) = [r])
      (news : ∀ message, shown = some message ↔ r.outcome = .toolFailure message ∧
        (heard earlier).getLast? ≠ some (.toolFailure message))
      (told : reports k ms ++ left = r.tale shown) : Reckoning ms k (.owes left)

theorem resultsOf_append (rs rs' : List Result) :
    resultsOf k (rs ++ rs') = resultsOf k rs ++ resultsOf k rs' := List.filter_append ..

theorem resultsOf_singleton (own : r.task = k) : resultsOf k [r] = [r] := by
  simp [resultsOf, own]

theorem task_of_mem_resultsOf {rs : List Result} (hr : r ∈ resultsOf k rs) : r.task = k := by
  simpa using (List.mem_filter.mp hr).2

theorem isReportOf_of_mem_tale {o : HubOutput} {shown : Option String} (ho : o ∈ r.tale shown) :
    o.isReportOf r.task := by
  cases shown with
  | none =>
    obtain rfl := List.mem_singleton.mp ho
    exact decide_eq_true rfl
  | some message =>
    rcases List.mem_cons.mp ho with rfl | ho
    · exact decide_eq_true rfl
    · obtain rfl := List.mem_singleton.mp ho
      exact decide_eq_true rfl

theorem resultsOf_toList_of_ne {r? : Option Result} (other : ∀ r, r? = some r → r.task ≠ k) :
    resultsOf k r?.toList = [] := by
  cases r? with
  | none => rfl
  | some r => simp [resultsOf, other r rfl]

theorem resultsOf_accepted_concat (unpassed : resultsOf k m.accepted?.toList = []) :
    resultsOf k (accepted (ms ++ [m])) = resultsOf k (accepted ms) := by
  rw [accepted_concat, resultsOf_append, unpassed, List.append_nil]

theorem resultsOf_recorded_concat (unrecorded : resultsOf k m.recorded?.toList = []) :
    resultsOf k (recorded (ms ++ [m])) = resultsOf k (recorded ms) := by
  rw [recorded_concat, resultsOf_append, unrecorded, List.append_nil]

/-- A moment that is no matter of a task changes nothing of what has come of it. -/
theorem Reckoning.keep (reckoning : Reckoning ms k s)
    (unpassed : resultsOf k m.accepted?.toList = [])
    (unrecorded : resultsOf k m.recorded?.toList = [])
    (quiet : m.outputs.filter (HubOutput.isReportOf k) = []) : Reckoning (ms ++ [m]) k s := by
  have hpassed : resultsOf k (accepted (ms ++ [m])) = resultsOf k (accepted ms) :=
    resultsOf_accepted_concat unpassed
  have hrecorded : resultsOf k (recorded (ms ++ [m])) = resultsOf k (recorded ms) :=
    resultsOf_recorded_concat unrecorded
  have hreports : reports k (ms ++ [m]) = reports k ms := by
    rw [reports_concat, quiet, List.append_nil]
  cases reckoning with
  | silent unpassed unrecorded quiet =>
    exact .silent (hpassed.trans unpassed) (hrecorded.trans unrecorded) (hreports.trans quiet)
  | holds r passed unrecorded quiet =>
    exact .holds r (hpassed.trans passed) (hrecorded.trans unrecorded) (hreports.trans quiet)
  | apart unpassed unrecorded mild =>
    exact .apart (hpassed.trans unpassed) (hrecorded.trans unrecorded) (hreports ▸ mild)
  | told r earlier later left shown passed split once news told =>
    refine .told r earlier (later ++ m.recorded?.toList) left shown (hpassed.trans passed) ?_
      (hrecorded.trans once) news (hreports ▸ told)
    rw [recorded_concat, split, List.append_assoc, List.cons_append]

/-- The result of a task passes. -/
theorem Reckoning.passes (reckoning : Reckoning ms k .silent) (own : r.task = k)
    (passing : m.accepted? = some r) (unrecorded : resultsOf k m.recorded?.toList = [])
    (silent : m.outputs = []) : Reckoning (ms ++ [m]) k (.holds r) := by
  cases reckoning with
  | silent none none' quiet =>
    refine .holds r ?_ ((resultsOf_recorded_concat unrecorded).trans none') ?_
    · rw [accepted_concat, resultsOf_append, none, passing]
      exact resultsOf_singleton own
    · rw [reports_concat, quiet, silent]
      rfl

/-- The result of a task comes to the record. -/
theorem Reckoning.records {shown : Option String} (reckoning : Reckoning ms k (.holds r))
    (own : r.task = k) (unpassed : resultsOf k m.accepted?.toList = [])
    (recording : m.recorded? = some r) (silent : m.outputs = [])
    (news : ∀ message, shown = some message ↔ r.outcome = .toolFailure message ∧
      (heard (recorded ms)).getLast? ≠ some (.toolFailure message)) :
    Reckoning (ms ++ [m]) k (.owes (r.tale shown)) := by
  cases reckoning with
  | holds _ passed fresh quiet =>
    refine .told r (recorded ms) [] _ shown ((resultsOf_accepted_concat unpassed).trans passed)
      ?_ ?_ news ?_
    · rw [recorded_concat, recording]
      rfl
    · rw [recorded_concat, resultsOf_append, fresh, recording]
      exact resultsOf_singleton own
    · rw [reports_concat, quiet, silent]
      rfl

/-- A task tells the next of what it owes. -/
theorem Reckoning.tells {o : HubOutput} {left : List HubOutput}
    (reckoning : Reckoning ms k (.owes (o :: left)))
    (unpassed : resultsOf k m.accepted?.toList = []) (unrecorded : m.recorded? = none)
    (told : m.outputs = [o]) : Reckoning (ms ++ [m]) k (.owes left) := by
  cases reckoning with
  | told r earlier later _ shown passed split once news tale =>
    have own : r.task = k := task_of_mem_resultsOf (once ▸ List.mem_singleton_self r)
    have report : o.isReportOf k :=
      own ▸ isReportOf_of_mem_tale (tale ▸ List.mem_append_right _ List.mem_cons_self)
    refine .told r earlier later left shown ((resultsOf_accepted_concat unpassed).trans passed) ?_
      ((resultsOf_recorded_concat (by rw [unrecorded]; rfl)).trans once) news ?_
    · rw [recorded_concat, unrecorded, split]
      exact List.append_nil _
    · rw [reports_concat, told, List.filter_singleton, report, List.append_assoc]
      exact tale

/-- A task ends without a result. -/
theorem Reckoning.ends (reckoning : Reckoning ms k .silent)
    (unpassed : resultsOf k m.accepted?.toList = [])
    (unrecorded : resultsOf k m.recorded?.toList = [])
    (mild : ∀ k message, .complained k message ∉ m.outputs) :
    Reckoning (ms ++ [m]) k (.owes []) := by
  cases reckoning with
  | silent none none' quiet =>
    refine .apart ((resultsOf_accepted_concat unpassed).trans none)
      ((resultsOf_recorded_concat unrecorded).trans none') fun message shows => ?_
    rw [reports_concat, quiet, List.nil_append] at shows
    exact mild _ _ (List.mem_of_mem_filter shows)

/-- **A step changes what has come of its task as it should.** -/
theorem Reckoning.step (reckoning : Reckoning ms t.id t.standing)
    (telling : Telling m.before t m.after m.outputs)
    (record : ∀ message, m.before.lastFailure = some message ↔
      (heard (recorded ms)).getLast? = some (.toolFailure message))
    (accepted_eq : m.accepted? = m.before.passing? t)
    (recorded_eq : m.recorded? = t.standing.held?) :
    Reckoning (ms ++ [m]) t.id (m.after.standing t.id) := by
  have unpassed (passing : m.before.passing? t = none) :
      resultsOf t.id m.accepted?.toList = [] := by
    rw [accepted_eq, passing]
    rfl
  have unrecorded (unheld : t.standing.held? = none) :
      resultsOf t.id m.recorded?.toList = [] := by
    rw [recorded_eq, unheld]
    rfl
  cases telling with
  | passes r passing before after silent =>
    rw [after]
    rw [before] at reckoning unrecorded
    exact reckoning.passes (task_of_passing? passing) (accepted_eq.trans passing) (unrecorded rfl)
      silent
  | records r shown before after silent news _ =>
    have nothing := unpassed (passing?_eq_none (by rw [before]; nofun))
    rw [after]
    rw [before] at reckoning recorded_eq
    refine reckoning.records (task_of_holds before) nothing recorded_eq silent fun message => ?_
    rw [news, ne_eq, record]
  | tells o left before after told =>
    have nothing := unpassed (passing?_eq_none (by rw [before]; nofun))
    rw [after]
    rw [before] at reckoning recorded_eq
    exact reckoning.tells nothing recorded_eq told
  | goesOn passing before after silent =>
    rw [after]
    rw [before] at reckoning unrecorded
    exact reckoning.keep (unpassed passing) (unrecorded rfl) silent
  | ends passing before after mild =>
    rw [after]
    rw [before] at reckoning unrecorded
    exact reckoning.ends (unpassed passing) (unrecorded rfl) mild
  | forgets before after silent =>
    have nothing := unpassed (passing?_eq_none (by rw [before]; nofun))
    rw [after]
    rw [before] at reckoning unrecorded
    exact reckoning.keep nothing (unrecorded rfl) (by rw [silent]; rfl)

/-! ### Runs -/

/-- What has come of all tasks, and the record. -/
structure Told (ms : List Moment) (h : Hub) : Prop where
  reckoning (k : Nat) : Reckoning ms k (h.standing k)
  record (message : String) :
    h.lastFailure = some message ↔ (heard (recorded ms)).getLast? = some (.toolFailure message)

theorem told_ofSettings (settings : SettingsStore) : Told [] (ofSettings settings) :=
  ⟨fun _ => .silent rfl rfl rfl, fun _ => iff_of_false nofun nofun⟩

theorem heard_append (rs rs' : List Result) : heard (rs ++ rs') = heard rs ++ heard rs' := by
  simp [heard]

/-- What the record makes of the next result. -/
theorem getLast?_heard_concat (rs : List Result) (r : Result) (message : String) :
    (heard (rs ++ [r])).getLast? = some (.toolFailure message) ↔
      r.outcome = .toolFailure message ∨
        r.outcome.isTransportFailure ∧ (heard rs).getLast? = some (.toolFailure message) := by
  rw [heard_append]
  cases houtcome : r.outcome <;> simp [heard, houtcome, Outcome.isTransportFailure]

/-- A move that is not a step of a task tells nothing. -/
theorem Told.wait (told : Told ms m.before) (nobody : m.mover? = none) (silent : m.outputs = [])
    (same : ∀ k, m.after.standing k = m.before.standing k)
    (record : m.after.lastFailure = m.before.lastFailure) : Told (ms ++ [m]) m.after := by
  have haccepted : m.accepted? = none := by rw [Moment.accepted?, nobody, Option.bind_none]
  have hrecorded : m.recorded? = none := by rw [Moment.recorded?, nobody, Option.bind_none]
  refine ⟨fun k => ?_, fun message => ?_⟩
  · rw [same]
    refine (told.reckoning k).keep ?_ ?_ ?_
    · rw [haccepted]
      rfl
    · rw [hrecorded]
      rfl
    · rw [silent]
      rfl
  · rw [record, told.record, recorded_concat, hrecorded]
    simp

/-- A step of a task. -/
theorem Told.step (told : Told ms m.before) (move : m.move = .event (.advance t.id a))
    (known : m.before.task? t.id = some t) (begun : t.id < m.before.nextTask)
    (step : TaskStep m.before t a m.after m.outputs) : Told (ms ++ [m]) m.after := by
  have mover : m.mover? = some t := by
    rw [Moment.mover?, move]
    exact known
  have accepted_eq : m.accepted? = m.before.passing? t := by
    rw [Moment.accepted?, mover, Option.bind_some]
  have recorded_eq : m.recorded? = t.standing.held? := by
    rw [Moment.recorded?, mover, Option.bind_some]
  have telling := Telling.of_step known begun step
  refine ⟨fun k => ?_, fun message => ?_⟩
  · by_cases hid : k = t.id
    · subst hid
      refine Reckoning.step ?_ telling told.record accepted_eq recorded_eq
      rw [← standing_of_task? known]
      exact told.reckoning t.id
    · rw [step.standing_of_ne hid]
      refine (told.reckoning k).keep ?_ ?_ (step.reports_of_ne hid)
      · rw [accepted_eq]
        exact resultsOf_toList_of_ne fun r passing => task_of_passing? passing ▸ Ne.symm hid
      · rw [recorded_eq]
        exact resultsOf_toList_of_ne fun r held =>
          task_of_holds (Standing.holds_of_held? held) ▸ Ne.symm hid
  · rw [recorded_concat, recorded_eq]
    cases hstanding : t.standing with
    | holds r =>
      cases telling with
      | records r' shown before after silent news record =>
        obtain rfl : r' = r := by
          rw [hstanding] at before
          cases before
          rfl
        rw [record, told.record]
        exact (getLast?_heard_concat _ _ _).symm
      | passes _ _ before | tells _ _ before | goesOn _ before | ends _ before | forgets before =>
        exact absurd (hstanding.symm.trans before) nofun
    | silent | owes =>
      have unheld : t.standing.held? = none := by
        rw [hstanding]
        rfl
      rw [step.lastFailure unheld, told.record]
      simp [Standing.held?]

/-- A move that starts tasks changes nothing of what any task has to tell. -/
theorem Run.standing_of_begins (run : Run (ofSettings settings) ms m.before) (legal : m.IsLegal)
    {calls : List (Uri × Work)} (same : SameTurns m.before h₁) (eq : m.after = h₁.beginAll calls)
    (k : Nat) : m.after.standing k = m.before.standing k := by
  have ho := run.orderly (orderly_ofSettings settings)
  cases known : m.before.task? k with
  | some t =>
    rw [standing_of_task? known, standing_of_task? (task?_of_begins ho.toWellKept same eq known)]
  | none =>
    -- A task that was not there before is new, and has not left its first stage.
    have fresh {t : Task} (ht : m.after.task? k = some t) :
        m.before.nextTask ≤ k ∧ t.standing = .silent := by
      obtain ⟨hmem, hid⟩ := mem_of_task? ht
      rw [tasks_of_begins ho.toWellKept same eq] at hmem
      rcases List.mem_append.mp hmem with hmem | hmem
      · rw [← hid, ho.task?_of_mem hmem] at known
        cases known
      · refine ⟨hid ▸ same.nextTask ▸ le_id_of_mem_newTasks hmem, ?_⟩
        rw [Task.standing, stage_of_mem_newTasks hmem]
    rw [standing, standing, known]
    have starts := (Run.next m run legal).map_id_started
    rw [started_concat, List.map_append, run.map_id_started] at starts
    cases after : m.after.task? k with
    | some t =>
      obtain ⟨hle, hsilent⟩ := fresh after
      rw [if_neg (Nat.not_lt_of_le hle)]
      exact hsilent
    | none =>
      -- Every number that was given since belongs to a task that is there.
      have hiff : k < m.after.nextTask ↔ k < m.before.nextTask := by
        rw [← List.mem_range, ← starts, List.mem_append, List.mem_range]
        refine or_iff_left fun hk => ?_
        obtain ⟨t, ht, rfl⟩ := List.mem_map.mp hk
        simp only [task?, List.find?_eq_none, decide_eq_true_eq] at after
        exact after t (List.mem_filter.mp ht).1 rfl
      simp only [hiff]

/-- **What has come of all tasks, and the record, after any run.** -/
theorem Run.told (run : Run (ofSettings settings) ms h) : Told ms h := by
  induction run with
  | stay => exact told_ofSettings settings
  | next m past legal ih =>
    have ho := past.orderly (orderly_ofSettings settings)
    by_cases advance : ∃ k a, m.move = .event (.advance k a)
    · obtain ⟨k, a, move⟩ := advance
      have hstep := legal
      rw [Moment.IsLegal, move] at hstep
      simp only [move?, step?] at hstep
      split at hstep
      · next t known =>
        obtain rfl : t.id = k := (mem_of_task? known).2
        have begun := ho.task_lt t (mem_of_task? known).1
        exact ih.step move known begun (.of_stepTask hstep)
      · cases hstep
    · have other : ∀ k a, m.move ≠ .event (.advance k a) := fun k a eq => advance ⟨k, a, eq⟩
      cases MoveEffect.of_move? legal with
      | steps t a move => exact absurd move (other t.id a)
      | begins h₁ same eq silent =>
        refine ih.wait ?_ silent (past.standing_of_begins legal same eq)
          (lastFailure_of_move? legal other)
        unfold Moment.mover?
        split
        · next move => exact absurd move (other _ _)
        · rfl

/-- **The record after any run** is the last failure among the outcomes that it depends on, if no
other outcome came after it. -/
theorem Run.lastFailure_eq_some_iff (run : Run (ofSettings settings) ms h) (message : String) :
    h.lastFailure = some message ↔
      (heard (recorded ms)).getLast? = some (.toolFailure message) := run.told.record message

/-! ### Tasks that have ended -/

/-- A moment is no matter of a task that is not there. -/
theorem Moment.apart_of_gone (legal : m.IsLegal) (gone : m.before.task? k = none) :
    resultsOf k m.accepted?.toList = [] ∧ resultsOf k m.recorded?.toList = [] ∧
      m.outputs.filter (HubOutput.isReportOf k) = [] := by
  have other {t : Task} (mover : m.mover? = some t) : t.id ≠ k := by
    unfold Moment.mover? at mover
    split at mover
    · rintro rfl
      rw [(mem_of_task? mover).2, mover] at gone
      cases gone
    · cases mover
  refine ⟨resultsOf_toList_of_ne fun r accepted => ?_, resultsOf_toList_of_ne fun r recorded => ?_,
    ?_⟩
  · obtain ⟨t, mover, passing⟩ := Option.bind_eq_some_iff.mp accepted
    exact task_of_passing? passing ▸ other mover
  · obtain ⟨t, mover, held⟩ := Option.bind_eq_some_iff.mp recorded
    exact task_of_holds (Standing.holds_of_held? held) ▸ other mover
  · cases MoveEffect.of_move? legal with
    | begins _ _ _ silent =>
      rw [silent]
      rfl
    | steps t a _ known step =>
      refine step.reports_of_ne ?_
      rintro rfl
      rw [known] at gone
      cases gone

theorem nextTask_le_beginAll (calls : List (Uri × Work)) :
    h.nextTask ≤ (h.beginAll calls).nextTask := by
  induction calls generalizing h with
  | nil => exact Nat.le_refl _
  | cons c calls ih =>
    have hle : (h.begin c.1 c.2).nextTask ≤ _ := ih
    rw [nextTask_begin] at hle
    exact Nat.le_of_succ_le hle

/-- A task that has ended is not heard of again. -/
theorem Run.silent_of_gone {mid : Hub} {future : List Moment} (run : Run mid future h)
    (ho : mid.Orderly) (gone : mid.task? k = none) (begun : k < mid.nextTask) :
    (h.task? k = none ∧ k < h.nextTask) ∧ resultsOf k (accepted future) = [] ∧
      resultsOf k (recorded future) = [] ∧ reports k future = [] := by
  induction run with
  | stay => exact ⟨⟨gone, begun⟩, rfl, rfl, rfl⟩
  | next m past legal ih =>
    obtain ⟨⟨gone, begun⟩, unpassed, unrecorded, quiet⟩ := ih
    obtain ⟨unpassed', unrecorded', quiet'⟩ := m.apart_of_gone legal gone
    refine ⟨?_, ?_, ?_, ?_⟩
    · have before := past.orderly ho
      cases MoveEffect.of_move? legal with
      | begins h₁ same eq _ =>
        have hle : m.before.nextTask ≤ m.after.nextTask := by
          rw [eq, ← same.nextTask]
          exact nextTask_le_beginAll _
        refine ⟨?_, Nat.lt_of_lt_of_le begun hle⟩
        simp only [task?, List.find?_eq_none, decide_eq_true_eq] at gone ⊢
        intro t ht hid
        rw [tasks_of_begins before.toWellKept same eq] at ht
        rcases List.mem_append.mp ht with ht | ht
        · exact gone t ht hid
        · have hge := le_id_of_mem_newTasks ht
          rw [same.nextTask] at hge
          omega
      | steps t a _ known step =>
        have hne : k ≠ t.id := by
          rintro rfl
          rw [known] at gone
          cases gone
        exact ⟨(step.effect.task?_of_ne hne).trans gone, step.effect.shrinks.nextTask ▸ begun⟩
    · exact (resultsOf_accepted_concat unpassed').trans unpassed
    · exact (resultsOf_recorded_concat unrecorded').trans unrecorded
    · rw [reports_concat, quiet, quiet', List.append_nil]

theorem standing_of_isComparison (comparison : t.stage.IsComparison) : t.standing = .silent := by
  cases stage : t.stage <;> simp only [stage, Stage.IsComparison] at comparison
  all_goals rw [Task.standing, stage]

/-- The step of a task that is outdated at a comparison ends it. No result passes, none comes to the
record, and nothing is told. -/
theorem Moment.ends_of_stale (legal : m.IsLegal) (known : m.before.task? t.id = some t)
    (move : m.move = .event (.advance t.id a)) (comparison : t.stage.IsComparison)
    (stale : ¬ m.before.isCurrent t.slot t.generation) :
    (m.after = m.before.finish t ∧ m.outputs = []) ∧ m.accepted? = none ∧ m.recorded? = none := by
  have mover : m.mover? = some t := by
    rw [Moment.mover?, move]
    exact known
  refine ⟨?_, ?_, ?_⟩
  · rw [Moment.IsLegal, move] at legal
    simp only [move?, step?, known] at legal
    cases stage : t.stage <;> simp only [stage, Stage.IsComparison] at comparison
    all_goals
      simp only [stepTask, stage, if_neg stale, Option.some.injEq, Prod.mk.injEq] at legal
      exact ⟨legal.1.symm, legal.2.symm⟩
  · rw [Moment.accepted?, mover, Option.bind_some]
    unfold passing?
    split
    · exact if_neg stale
    · rfl
  · rw [Moment.recorded?, mover, Option.bind_some, standing_of_isComparison comparison]
    rfl

/-- A task that is outdated at a comparison ends, and nothing is ever told of it. -/
theorem Run.quiet_of_outdated (run : Run (ofSettings settings) ms h) (hm : m ∈ ms)
    (compares : m.Compares k) (outdated : ¬ m.Passes k) :
    resultsOf k (accepted ms) = [] ∧ resultsOf k (recorded ms) = [] ∧ reports k ms = [] := by
  obtain ⟨past, future, rfl⟩ := List.append_of_mem hm
  obtain ⟨hpast, legal, hfuture⟩ := run.split
  have ho := hpast.orderly (orderly_ofSettings settings)
  obtain ⟨t, a, known, comparison, move⟩ := compares
  obtain ⟨ht, rfl⟩ := mem_of_task? known
  have stale : ¬ m.before.isCurrent t.slot t.generation := fun current =>
    outdated (m.passes_of_isCurrent legal move known comparison current)
  obtain ⟨⟨hafter, houtputs⟩, unpassed, unrecorded⟩ :=
    m.ends_of_stale legal known move comparison stale
  have gone : m.after.task? t.id = none := by
    simp only [hafter, task?, List.find?_eq_none, decide_eq_true_eq]
    exact fun t' ht' => (mem_tasks_finish.mp ht').2
  have begun : t.id < m.after.nextTask := by
    rw [hafter]
    exact ho.task_lt t ht
  have before := hpast.told.reckoning t.id
  rw [standing_of_task? known, standing_of_isComparison comparison] at before
  obtain ⟨-, unpassed', unrecorded', quiet'⟩ :=
    hfuture.silent_of_gone (ho.move (.of_move? legal)) gone begun
  cases before with
  | silent hpassed hrecorded hquiet =>
    rw [List.append_cons]
    refine ⟨?_, ?_, ?_⟩
    · rw [accepted_append, resultsOf_append, unpassed', List.append_nil,
        resultsOf_accepted_concat (by rw [unpassed]; rfl), hpassed]
    · rw [recorded_append, resultsOf_append, unrecorded', List.append_nil,
        resultsOf_recorded_concat (by rw [unrecorded]; rfl), hrecorded]
    · rw [reports_append, reports_concat, houtputs, quiet', hquiet]
      rfl

/-! ### What is left can be told -/

/-- A task that holds a result or owes something can take its next step, whatever it hears. -/
theorem isSome_step?_of_told (known : h.task? k = some t) (told : t.standing ≠ .silent)
    (a : Answer) : (h.step? (.advance k a)).isSome := by
  simp only [step?, known]
  cases stage : t.stage with
  | recording | complaining | publishing | forgetting => simp [stepTask, stage]
  | _ => exact absurd (by rw [Task.standing, stage]) told

/-- So its step is one of those that tell. -/
private theorem Orderly.exists_telling (ho : h.Orderly) (told : h.standing k ≠ .silent)
    (owing : h.standing k ≠ .owes []) (a : Answer) :
    ∃ t h' outs, t.id = k ∧ t.standing = h.standing k ∧
      h.step? (.advance k a) = some (h', outs) ∧ Telling h t h' outs := by
  cases known : h.task? k with
  | none =>
    rw [standing, known] at told owing
    dsimp only at told owing
    split at told
    · next begun => exact absurd (if_pos begun) owing
    · exact absurd rfl told
  | some t =>
    obtain ⟨ht, rfl⟩ := mem_of_task? known
    have standing := standing_of_task? known
    obtain ⟨⟨h', outs⟩, hstep⟩ := Option.isSome_iff_exists.mp
      (isSome_step?_of_told known (standing ▸ told) a)
    refine ⟨t, h', outs, rfl, standing.symm, hstep, ?_⟩
    simp only [step?, known] at hstep
    exact .of_step known (ho.task_lt t ht) (.of_stepTask hstep)

/-- What is owed first is told by the next step of the task, and the rest is owed after it. -/
theorem Orderly.tells (ho : h.Orderly) {o : HubOutput} {left : List HubOutput}
    (due : (h.standing k).due = o :: left) (a : Answer) :
    ∃ h', h.step? (.advance k a) = some (h', [o]) ∧ (h'.standing k).due = left := by
  have owes := Standing.owes_of_due due
  obtain ⟨t, h', outs, rfl, same, hstep, telling⟩ :=
    ho.exists_telling (by rw [owes]; nofun) (by rw [owes]; nofun) a
  rw [owes] at same
  cases telling with
  | tells o' left' before after told =>
    obtain ⟨rfl, rfl⟩ := List.cons.inj (Standing.owes.inj (same.symm.trans before))
    exact ⟨h', told ▸ hstep, after ▸ rfl⟩
  | passes _ _ before | records _ _ before | goesOn _ before | ends _ before | forgets before =>
    exact absurd (same.symm.trans before) nofun

/-- A result that has passed comes to the record by the next step of its task. -/
theorem Orderly.records (ho : h.Orderly) (holds : h.standing k = .holds r) (a : Answer) :
    ∃ h' shown, h.step? (.advance k a) = some (h', []) ∧
      h'.standing k = .owes (r.tale shown) := by
  obtain ⟨t, h', outs, rfl, same, hstep, telling⟩ :=
    ho.exists_telling (by rw [holds]; nofun) (by rw [holds]; nofun) a
  rw [holds] at same
  cases telling with
  | records r' shown before after silent _ _ =>
    obtain rfl := Standing.holds.inj (same.symm.trans before)
    exact ⟨h', shown, silent ▸ hstep, after⟩
  | passes _ _ before | tells _ _ before | goesOn _ before | ends _ before | forgets before =>
    exact absurd (same.symm.trans before) nofun

/-! ### Which failures are shown -/

theorem nodup_map_task {rs : List Result} (once : ∀ k, (resultsOf k rs).length ≤ 1) :
    (rs.map Result.task).Nodup := by
  rw [List.nodup_iff_count_le_one]
  intro k
  have hcount : (rs.map Result.task).count k = (resultsOf k rs).length := by
    rw [List.count, List.countP_map, List.countP_eq_length_filter, resultsOf]
    congr 1
  exact hcount ▸ once k

theorem mem_resultsOf_task (rs : List Result) (r : Result) : r ∈ resultsOf r.task rs ↔ r ∈ rs := by
  simp [resultsOf]

theorem Reckoning.length_le (reckoning : Reckoning ms k s) :
    (resultsOf k (recorded ms)).length ≤ 1 := by
  cases reckoning with
  | silent _ none | holds _ _ none | apart _ none =>
    rw [none]
    exact Nat.zero_le 1
  | told r earlier later left shown _ _ once =>
    rw [once]
    exact Nat.le_refl 1

/-- A result that has passed came to the record, or its task holds it. -/
theorem Reckoning.mem_accepted_iff (reckoning : Reckoning ms r.task s) :
    r ∈ accepted ms ↔ r ∈ recorded ms ∨ s = .holds r := by
  have hmem := mem_resultsOf_task (recorded ms) r
  rw [← mem_resultsOf_task, ← hmem]
  cases reckoning with
  | silent unpassed unrecorded | apart unpassed unrecorded => simp [unpassed, unrecorded]
  | holds r' passed unrecorded => simp [passed, unrecorded, eq_comm]
  | told r' earlier later left shown passed split once => simp [passed, once]

/-- The tale of a result that came to the record. -/
theorem Reckoning.tale (reckoning : Reckoning ms r.task s) {earlier later : List Result}
    (split : recorded ms = earlier ++ r :: later) : ∃ shown : Option String,
      reports r.task ms ++ s.due = r.tale shown ∧
      ∀ message, shown = some message ↔ r.outcome = .toolFailure message ∧
        (heard earlier).getLast? ≠ some (.toolFailure message) := by
  have hmem : r ∈ resultsOf r.task (recorded ms) := by
    rw [mem_resultsOf_task, split]
    exact List.mem_append_right _ List.mem_cons_self
  cases reckoning with
  | silent _ unrecorded | holds _ _ unrecorded | apart _ unrecorded =>
    rw [unrecorded] at hmem
    exact absurd hmem List.not_mem_nil
  | told r' earlier' later' left shown passed split' once news told =>
    obtain rfl : r = r' := List.mem_singleton.mp (once ▸ hmem)
    -- The result is not among the others, so the record is split in one way only.
    have hcount := once
    rw [split, List.append_cons, resultsOf_append, resultsOf_append, resultsOf_singleton rfl]
      at hcount
    have hlength := congrArg List.length hcount
    simp only [List.length_append, List.length_singleton] at hlength
    have apart {rs : List Result} (hrs : (resultsOf r.task rs).length = 0) : r ∉ rs := fun hr =>
      List.ne_nil_of_mem ((mem_resultsOf_task _ _).mpr hr) (List.eq_nil_of_length_eq_zero hrs)
    have hbefore : r ∉ earlier := apart (by omega)
    have hafter : r ∉ later := apart (by omega)
    obtain ⟨rfl, -, -⟩ :=
      (List.append_cons_inj_of_notMem hbefore hafter).mp (split.symm.trans split')
    exact ⟨shown, told, news⟩

/-- A task that shows a failure came to the record. -/
theorem Reckoning.recorded_of_complained (reckoning : Reckoning ms k s) {message : String}
    (shows : .complained k message ∈ reports k ms) : ∃ r ∈ recorded ms, r.task = k := by
  cases reckoning with
  | silent _ _ quiet | holds _ _ _ quiet =>
    rw [quiet] at shows
    exact absurd shows List.not_mem_nil
  | apart _ _ mild => exact absurd shows (mild message)
  | told r earlier later left shown _ split once =>
    refine ⟨r, ?_, task_of_mem_resultsOf (once ▸ List.mem_singleton_self r)⟩
    rw [split]
    exact List.mem_append_right _ List.mem_cons_self

/-- **Which failures are shown.** For every run, whatever the documents of its tasks and the order
of their steps:

1. a task comes to the record at most once; the results that have passed the last comparison are
   those that came to the record and those whose tasks are about to; and nothing else changes the
   record;
2. what was told of a result that came to the record, together with what is still to be told, is a
   failure, if it is shown, and one publication of its diagnostics, which are none after either kind
   of failure. A failure is shown just when it is one of the tool, and not the one that came to the
   record last before it, among the results that are no failures to hand the buffer over;
3. who shows a failure came to the record, and a task that was found to be outdated did not, and has
   told nothing;
4. what is still to be told can be told by the next step of the task, whatever it hears, and a
   result that has passed can come to the record. -/
theorem Run.failures_told (run : Run (ofSettings settings) ms h) :
    (((recorded ms).map Result.task).Nodup ∧
      (∀ r, r ∈ accepted ms ↔ r ∈ recorded ms ∨ h.standing r.task = .holds r) ∧
      ∀ message, h.lastFailure = some message ↔
        (heard (recorded ms)).getLast? = some (.toolFailure message)) ∧
    (∀ earlier r later, recorded ms = earlier ++ r :: later → ∃ shown : Option String,
      reports r.task ms ++ (h.standing r.task).due = shown.toList.map (.complained r.task) ++
        [.published r.task r.uri (diagnosticsOf r.target r.outcome) (some r.target.version)] ∧
      (r.outcome.isFailure → diagnosticsOf r.target r.outcome = []) ∧
      ∀ message, shown = some message ↔ r.outcome = .toolFailure message ∧
        (heard earlier).getLast? ≠ some (.toolFailure message)) ∧
    ((∀ k message, .complained k message ∈ reports k ms → ∃ r ∈ recorded ms, r.task = k) ∧
      ∀ m ∈ ms, ∀ k, m.Compares k → ¬ m.Passes k →
        (∀ r ∈ recorded ms, r.task ≠ k) ∧ reports k ms = []) ∧
    (∀ k o left, (h.standing k).due = o :: left → ∀ a, ∃ h',
      h.step? (.advance k a) = some (h', [o]) ∧ (h'.standing k).due = left) ∧
    ∀ r, h.standing r.task = .holds r → ∀ a, ∃ h' shown,
      h.step? (.advance r.task a) = some (h', []) ∧
        h'.standing r.task = .owes (r.tale shown) := by
  have ho := run.orderly (orderly_ofSettings settings)
  have reckoning := run.told.reckoning
  refine ⟨⟨nodup_map_task fun k => (reckoning k).length_le,
    fun r => (reckoning r.task).mem_accepted_iff, run.lastFailure_eq_some_iff⟩, ?_, ⟨?_, ?_⟩,
    fun k o left due a => ho.tells due a, fun r holds a => ho.records holds a⟩
  · intro earlier r later split
    obtain ⟨shown, tale, news⟩ := (reckoning r.task).tale split
    refine ⟨shown, tale, fun failure => ?_, news⟩
    rw [diagnosticsOf, Outcome.findings_eq_nil, List.map_nil]
    intro rs problems
    rw [problems] at failure
    cases failure
  · intro k message shows
    exact (reckoning k).recorded_of_complained shows
  · intro m hm k compares outdated
    obtain ⟨-, unrecorded, quiet⟩ := run.quiet_of_outdated hm compares outdated
    refine ⟨fun r hr own => ?_, quiet⟩
    exact List.ne_nil_of_mem ((mem_resultsOf_task _ _).mpr hr) (own ▸ unrecorded)

/-- What the linter is run for on a draft. -/
def draftTarget : LintTarget := ⟨none, "message m {}", 1, false, false⟩

/-- The same failure twice for a draft, and a failure to hand another one over in between. -/
def mishaps : List Move :=
  [openDraft 1, .event (.document (.opened sketch "proto3" 1 "message m {}"))] ++
    takes 0 (lintAnswers (.toolFailure "no config") ++ [.nothing]) ++
    takes 1 (lintAnswers (.transportFailure "no pipe")) ++ [.call draft .refresh] ++
    takes 2 (lintAnswers (.toolFailure "no config"))

theorem mishaps_told : ∃ ms h, Run (ofSettings .inMemory) ms h ∧
    recorded ms = [⟨0, draft, draftTarget, .toolFailure "no config"⟩,
      ⟨1, sketch, draftTarget, .transportFailure "no pipe"⟩,
      ⟨2, draft, draftTarget, .toolFailure "no config"⟩] ∧
    .complained 0 "no config" ∈ reports 0 ms ++ (h.standing 0).due ∧
    reports 2 ms ++ (h.standing 2).due = [.published 2 draft [] (some 1)] := by
  have seen : ((ofSettings .inMemory).follow mishaps).map (fun p => recorded p.1) =
      some [⟨0, draft, draftTarget, .toolFailure "no config"⟩,
        ⟨1, sketch, draftTarget, .transportFailure "no pipe"⟩,
        ⟨2, draft, draftTarget, .toolFailure "no config"⟩] := by rfl
  obtain ⟨ms, h, run, -, hrecorded⟩ := Run.exists_of_follow seen
  obtain ⟨-, tale, -⟩ := run.failures_told
  refine ⟨ms, h, run, hrecorded, ?_, ?_⟩
  · obtain ⟨shown, hreports, -, news⟩ := tale [] _ _ hrecorded
    have first : shown = some "no config" := (news "no config").mpr ⟨rfl, nofun⟩
    rw [hreports, first]
    exact List.mem_cons_self
  · obtain ⟨shown, hreports, empty, news⟩ := tale [_, _] _ [] hrecorded
    have again : shown = none := by
      refine Option.eq_none_iff_forall_ne_some.mpr fun message eq => ?_
      obtain ⟨same, other⟩ := (news message).mp eq
      cases same
      exact other rfl
    rw [hreports, again, empty rfl]
    rfl

end Hub

end LintBridge
