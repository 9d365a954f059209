import LintBridge.Proofs.Hub.Slots

/-!
# What a step of a task can do

The steps of a task, one case each: what the task finds, how it goes on, and what is seen of it.
For the order of tasks most of these cases are alike, so they are also put into four kinds
(`Hub.TaskEffect`): a task enters, goes on, ends, or ends and forgets its slot.

A task that has not yet compared its generation is *early* (`Stage.IsEarly`). Only early tasks can
be overtaken by a task of a newer slot.

## Main definitions

* `Stage.IsEarly` — the task has not compared its generation.
* `Hub.TaskStep` — the steps of a task.
* `Hub.TaskEffect` — what a step means for turns.

## Main results

* `Hub.TaskStep.of_stepTask` — these are all the steps.
* `Hub.TaskStep.effect` — what each of them means for turns.
* `Hub.TaskStep.of_published`, `Hub.TaskStep.of_started` — when a task publishes or starts the
  linter.
-/

namespace LintBridge

/-- The task has not compared its generation with that of its slot. -/
def Stage.IsEarly : Stage → Prop
  | .queued => True
  | .admitted => True
  | _ => False

namespace Hub

variable {h h' : Hub} {t : Task} {a : Answer} {outs : List HubOutput}

/-! ### Steps -/

/-- The steps of a task. -/
inductive TaskStep (h : Hub) (t : Task) : Answer → Hub → List HubOutput → Prop where
  /-- The turn is free, and the task takes it. -/
  | enter (a : Answer) (stage : t.stage = .queued) (free : h.isFree t.slot) :
    TaskStep h t a ((h.giveTurn t.slot t.id).moveTo t.id .admitted) []
  /-- No newer trigger has used the slot, and the document is to be linted. -/
  | look (a : Answer) (stage : t.stage = .admitted) (current : h.isCurrent t.slot t.generation)
      (work : t.work = .refresh) : TaskStep h t a (h.moveTo t.id .looking) []
  /-- No newer trigger has used the slot, and the document was closed. -/
  | remove (a : Answer) (stage : t.stage = .admitted) (current : h.isCurrent t.slot t.generation)
      (work : t.work = .delete) : TaskStep h t a (h.moveTo t.id .deleting) []
  /-- A newer trigger has used the slot. -/
  | skip (a : Answer) (stage : t.stage = .admitted)
      (superseded : ¬ h.isCurrent t.slot t.generation) : TaskStep h t a (h.finish t) []
  /-- There is no document any more. -/
  | miss (a : Answer) (stage : t.stage = .looking) (gone : h.documents.get? t.uri = none) :
    TaskStep h t a (h.finish t) []
  /-- The document is taken as it is now. -/
  | capture (a : Answer) (d : Document) (stage : t.stage = .looking)
      (found : h.documents.get? t.uri = some d) (target : d.isTarget t.uri) :
    TaskStep h t a (h.moveTo t.id (.gathering d)) []
  /-- The document is not one that is linted. -/
  | reject (a : Answer) (d : Document) (stage : t.stage = .looking)
      (found : h.documents.get? t.uri = some d) (other : ¬ d.isTarget t.uri) :
    TaskStep h t a (h.moveTo t.id .clearing) []
  /-- The diagnostics of a document that is not linted are taken away. -/
  | clear (a : Answer) (stage : t.stage = .clearing) :
    TaskStep h t a (h.finish t) [.published t.id t.uri [] none]
  /-- The folders are taken as they are now. -/
  | gather (a : Answer) (d : Document) (stage : t.stage = .gathering d) :
    TaskStep h t a (h.moveTo t.id (.locating d h.folders .starting)) []
  /-- A step on the way to the executable. -/
  | locate (a : Answer) (d : Document) (folders : List Path) (s s' : LocateStage) (l : Locator)
      (prompts : List Prompt) (stage : t.stage = .locating d folders s)
      (step : h.locator.step? t.id folders.head? s a = some (l, s', prompts)) :
    TaskStep h t a ({ h with locator := l }.moveTo t.id (.locating d folders s'))
      (prompts.map (.prompted t.id))
  /-- The executable was found. -/
  | equip (a : Answer) (d : Document) (folders : List Path) (executable : String)
      (stage : t.stage = .locating d folders (.done (some executable))) :
    TaskStep h t a (h.moveTo t.id (.equipped d folders executable)) []
  /-- No executable was found. -/
  | giveUp (a : Answer) (d : Document) (folders : List Path)
      (stage : t.stage = .locating d folders (.done none)) : TaskStep h t a (h.finish t) []
  /-- The linter is started. -/
  | launch (a : Answer) (d : Document) (folders : List Path) (executable : String)
      (stage : t.stage = .equipped d folders executable) :
    TaskStep h t a
      (h.moveTo t.id (.running (jobFor h.settings executable folders) (d.target t.uri)))
      [.started t.id (jobFor h.settings executable folders) (d.target t.uri)]
  /-- The linter has ended. -/
  | collect (o : Outcome) (job : LintJob) (target : LintTarget)
      (stage : t.stage = .running job target) :
    TaskStep h t (.outcome o) (h.moveTo t.id (.judging target o)) []
  /-- No newer trigger has used the slot while the linter ran. -/
  | accept (a : Answer) (target : LintTarget) (o : Outcome) (stage : t.stage = .judging target o)
      (current : h.isCurrent t.slot t.generation) :
    TaskStep h t a (h.moveTo t.id (.recording target o)) []
  /-- A newer trigger has used the slot while the linter ran. -/
  | discard (a : Answer) (target : LintTarget) (o : Outcome) (stage : t.stage = .judging target o)
      (stale : ¬ h.isCurrent t.slot t.generation) : TaskStep h t a (h.finish t) []
  /-- The outcome is compared with the last failure. -/
  | record (a : Answer) (target : LintTarget) (o : Outcome)
      (stage : t.stage = .recording target o) :
    TaskStep h t a ((h.record target o).1.moveTo t.id (h.record target o).2) []
  /-- A failure is shown. -/
  | complain (a : Answer) (target : LintTarget) (o : Outcome) (message : String)
      (stage : t.stage = .complaining target o message) :
    TaskStep h t a (h.moveTo t.id (.publishing target o)) [.complained t.id message]
  /-- The diagnostics are shown. -/
  | publish (a : Answer) (target : LintTarget) (o : Outcome)
      (stage : t.stage = .publishing target o) :
    TaskStep h t a (h.finish t)
      [.published t.id t.uri (diagnosticsOf target o) (some target.version)]
  /-- The diagnostics of a closed document are taken away. -/
  | delete (a : Answer) (stage : t.stage = .deleting) :
    TaskStep h t a (h.moveTo t.id .forgetting) [.published t.id t.uri [] none]
  /-- The slot of a closed document is forgotten. -/
  | forget (a : Answer) (stage : t.stage = .forgetting) :
    TaskStep h t a ((h.forget t.uri t.slot t.generation).finish t) []

private theorem TaskStep.of_stepLocating {d : Document} {folders : List Path} {s : LocateStage}
    (hstage : t.stage = .locating d folders s)
    (hs : h.stepLocating t d folders s a = some (h', outs)) : TaskStep h t a h' outs := by
  unfold stepLocating at hs
  split at hs
  · next executable =>
    obtain ⟨rfl, rfl⟩ := Prod.mk.inj (Option.some.inj hs)
    exact .equip a d folders executable hstage
  · obtain ⟨rfl, rfl⟩ := Prod.mk.inj (Option.some.inj hs)
    exact .giveUp a d folders hstage
  · split at hs
    · next l s' prompts hl =>
      obtain ⟨rfl, rfl⟩ := Prod.mk.inj (Option.some.inj hs)
      exact .locate a d folders s s' l prompts hstage hl
    · cases hs

/-- Every step of a task is one of the cases of `TaskStep`. -/
theorem TaskStep.of_stepTask (hs : h.stepTask t a = some (h', outs)) : TaskStep h t a h' outs := by
  cases hstage : t.stage <;> simp only [stepTask, hstage] at hs
  case queued =>
    split at hs
    · next free =>
      obtain ⟨rfl, rfl⟩ := Prod.mk.inj (Option.some.inj hs)
      exact .enter a hstage free
    · cases hs
  case admitted =>
    split at hs
    · next current =>
      obtain ⟨rfl, rfl⟩ := Prod.mk.inj (Option.some.inj hs)
      cases work : t.work with
      | refresh => exact .look a hstage current work
      | delete => exact .remove a hstage current work
    · next superseded =>
      obtain ⟨rfl, rfl⟩ := Prod.mk.inj (Option.some.inj hs)
      exact .skip a hstage superseded
  case looking =>
    split at hs
    · next gone =>
      obtain ⟨rfl, rfl⟩ := Prod.mk.inj (Option.some.inj hs)
      exact .miss a hstage gone
    · next d found =>
      obtain ⟨rfl, rfl⟩ := Prod.mk.inj (Option.some.inj hs)
      split
      · next target => exact .capture a d hstage found target
      · next other => exact .reject a d hstage found other
  case locating d folders s => exact .of_stepLocating hstage hs
  case running job target =>
    split at hs
    · next o =>
      obtain ⟨rfl, rfl⟩ := Prod.mk.inj (Option.some.inj hs)
      exact .collect o job target hstage
    · cases hs
  case judging target o =>
    split at hs
    · next current =>
      obtain ⟨rfl, rfl⟩ := Prod.mk.inj (Option.some.inj hs)
      exact .accept a target o hstage current
    · next stale =>
      obtain ⟨rfl, rfl⟩ := Prod.mk.inj (Option.some.inj hs)
      exact .discard a target o hstage stale
  all_goals obtain ⟨rfl, rfl⟩ := Prod.mk.inj (Option.some.inj hs)
  case clearing => exact .clear a hstage
  case gathering d => exact .gather a d hstage
  case equipped d folders executable => exact .launch a d folders executable hstage
  case recording target o => exact .record a target o hstage
  case complaining target o message => exact .complain a target o message hstage
  case publishing target o => exact .publish a target o hstage
  case deleting => exact .delete a hstage
  case forgetting => exact .forget a hstage

/-! ### What a step means for turns -/

/-- What a step of a task means for turns. -/
inductive TaskEffect (h : Hub) (t : Task) (h' : Hub) : Prop where
  /-- The task takes the turn. -/
  | enters (stage : t.stage = .queued) (free : h.isFree t.slot)
      (eq : h' = (h.giveTurn t.slot t.id).moveTo t.id .admitted)
  /-- The task goes on. If it was early, its generation was the latest. -/
  | goesOn (s : Stage) (h₁ : Hub) (stage : t.stage ≠ .queued) (late : ¬ s.IsEarly)
      (current : t.stage.IsEarly → h.isCurrent t.slot t.generation)
      (notForgetting : t.stage ≠ .forgetting) (same : SameTurns h h₁) (eq : h' = h₁.moveTo t.id s)
  /-- The task ends. -/
  | ends (stage : t.stage ≠ .queued) (notForgetting : t.stage ≠ .forgetting)
      (eq : h' = h.finish t)
  /-- The task forgets its slot and ends. -/
  | forgets (stage : t.stage = .forgetting)
      (eq : h' = (h.forget t.uri t.slot t.generation).finish t)

private theorem late_goesOn {s s' : Stage} {h₁ : Hub} (hs : t.stage = s) (hlate : ¬ s.IsEarly)
    (hs' : ¬ s'.IsEarly) (hf : s ≠ .forgetting) (same : SameTurns h h₁) :
    TaskEffect h t (h₁.moveTo t.id s') := by
  subst hs
  refine .goesOn s' h₁ ?_ hs' (fun he => absurd he hlate) hf same rfl
  intro hq
  rw [hq] at hlate
  exact hlate trivial

theorem sameTurns_record (target : LintTarget) (o : Outcome) :
    SameTurns h (h.record target o).1 := by
  unfold Hub.record
  split
  · split
    · exact .refl h
    · exact ⟨rfl, rfl, rfl, rfl⟩
  · exact .refl h
  · exact ⟨rfl, rfl, rfl, rfl⟩

private theorem late_record (target : LintTarget) (o : Outcome) :
    ¬ (h.record target o).2.IsEarly := by
  unfold Hub.record
  split
  · split <;> exact id
  · exact id
  · exact id

theorem TaskStep.effect (step : TaskStep h t a h' outs) : TaskEffect h t h' := by
  have notQueued {s : Stage} (hs : t.stage = s) (hne : s ≠ .queued) : t.stage ≠ .queued := hs ▸ hne
  have ends {s : Stage} (hs : t.stage = s) (hq : s ≠ .queued) (hf : s ≠ .forgetting) :
      TaskEffect h t (h.finish t) := .ends (hs ▸ hq) (hs ▸ hf) rfl
  cases step with
  | enter _ stage free => exact .enters stage free rfl
  | look _ stage current | remove _ stage current =>
    exact .goesOn _ h (notQueued stage nofun) id (fun _ => current)
      (stage ▸ nofun) (.refl h) rfl
  | skip _ stage | miss _ stage | clear _ stage | giveUp _ _ _ stage | discard _ _ _ stage
  | publish _ _ _ stage => exact ends stage nofun nofun
  | capture _ _ stage | reject _ _ stage | gather _ _ stage | equip _ _ _ _ stage
  | launch _ _ _ _ stage | collect _ _ _ stage | accept _ _ _ stage | complain _ _ _ _ stage
  | delete _ stage => exact late_goesOn stage id id nofun (.refl h)
  | locate _ _ _ _ _ _ _ stage => exact late_goesOn stage id id nofun ⟨rfl, rfl, rfl, rfl⟩
  | record _ target o stage =>
    exact late_goesOn stage id (late_record target o) nofun (sameTurns_record target o)
  | forget _ stage => exact .forgets stage rfl

/-! ### What is seen of a step -/

/-- **When a task publishes.** A publication names the task and its document. The task is past its
first comparison, and has not published before. -/
theorem TaskStep.of_published (step : TaskStep h t a h' outs) {k : Nat} {uri : Uri}
    {ds : List Diagnostic} {v : Option Int} (hp : .published k uri ds v ∈ outs) :
    k = t.id ∧ uri = t.uri ∧ outs = [.published t.id t.uri ds v] ∧
      (t.stage = .clearing ∧ ds = [] ∧ v = none ∨
        (∃ target o, t.stage = .publishing target o ∧ ds = diagnosticsOf target o ∧
          v = some target.version) ∨
        t.stage = .deleting ∧ ds = [] ∧ v = none) := by
  cases step <;> simp only [List.not_mem_nil, List.mem_singleton, List.mem_map, reduceCtorEq,
    and_false, exists_false, HubOutput.published.injEq] at hp
  case clear stage =>
    obtain ⟨rfl, rfl, rfl, rfl⟩ := hp
    exact ⟨rfl, rfl, rfl, .inl ⟨stage, rfl, rfl⟩⟩
  case publish target o stage =>
    obtain ⟨rfl, rfl, rfl, rfl⟩ := hp
    exact ⟨rfl, rfl, rfl, .inr (.inl ⟨target, o, stage, rfl, rfl⟩)⟩
  case delete stage =>
    obtain ⟨rfl, rfl, rfl, rfl⟩ := hp
    exact ⟨rfl, rfl, rfl, .inr (.inr ⟨stage, rfl, rfl⟩)⟩

/-- A task that starts the linter does so on the document that it has taken. -/
theorem TaskStep.of_started (step : TaskStep h t a h' outs) {k : Nat} {job : LintJob}
    {target : LintTarget} (hs : .started k job target ∈ outs) :
    k = t.id ∧ ∃ d folders executable, t.stage = .equipped d folders executable ∧
      target = d.target t.uri := by
  cases step <;> simp only [List.not_mem_nil, List.mem_singleton, List.mem_map, reduceCtorEq,
    and_false, exists_false, HubOutput.started.injEq] at hs
  case launch d folders executable stage =>
    obtain ⟨rfl, rfl, rfl⟩ := hs
    exact ⟨rfl, d, folders, executable, stage, rfl⟩

end Hub

end LintBridge
