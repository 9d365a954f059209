import LintBridge.Proofs.Hub.Snapshot

/-!
# Tasks that are overtaken

A task that takes its document after a newer trigger of the document has come is *overtaken*. It may
still start the linter, but it finds itself outdated when it compares its generation again. So it
never publishes, and what is published was found in a document that was taken before any newer
trigger.

## Main definitions

* `Stage.IsWorking` — the task has taken its document and has not compared its generation again.

## Main results

* `Hub.TaskStep.working` — an outdated task at work goes on working or ends in silence.
* `Hub.Run.working_step` — so it does at every move.
* `Hub.Run.not_published_of_overtaken` — a task that is overtaken never publishes.
-/

namespace LintBridge

/-- The task has taken its document and has not compared its generation again. -/
def Stage.IsWorking : Stage → Prop
  | .gathering _ | .locating _ _ _ | .equipped _ _ _ | .running _ _ | .judging _ _ => True
  | _ => False

namespace Hub

variable {h h' : Hub} {t : Task} {ms l r : List Moment} {m s : Moment}
  {settings : SettingsStore} {d : Document}

/-- A task that takes its document comes to its work. -/
theorem Moment.Captures.working (captures : m.Captures t d) (legal : m.IsLegal) :
    m.outputs = [] ∧ ∀ t' ∈ m.after.tasks, t'.id = t.id → t'.stage.IsWorking := by
  obtain ⟨known, ⟨a, move⟩, found, target⟩ := captures
  rw [Moment.IsLegal, move] at legal
  simp only [move?, step?, known, stepTask, found, target, if_true, Option.some.injEq,
    Prod.mk.injEq] at legal
  obtain ⟨hafter, houts⟩ := legal
  refine ⟨houts.symm, fun t' ht' hid => ?_⟩
  rw [← hafter] at ht'
  rw [stage_of_mem_moveTo ht' hid]
  trivial

/-- A task at work that is not the latest of its document goes on working or ends, and publishes
nothing. -/
theorem TaskStep.working {a : Answer} {outs : List HubOutput} (step : TaskStep h t a h' outs)
    (ho : h.Orderly) (ht : t ∈ h.tasks) (working : t.stage.IsWorking) (outdated : ¬ h.IsLatest t) :
    (∀ t' ∈ h'.tasks, t'.id = t.id → t'.stage.IsWorking) ∧
      ∀ u ds v, .published t.id u ds v ∉ outs := by
  have comes {s : Stage} {h₁ : Hub} (hs : s.IsWorking) :
      ∀ t' ∈ (h₁.moveTo t.id s).tasks, t'.id = t.id → t'.stage.IsWorking := by
    intro t' ht' hid
    rwa [stage_of_mem_moveTo ht' hid]
  have gone : ∀ t' ∈ (h.finish t).tasks, t'.id = t.id → t'.stage.IsWorking :=
    fun t' ht' hid => absurd hid (mem_tasks_finish.mp ht').2
  cases step with
  | gather | equip | collect => exact ⟨comes trivial, fun u ds v => List.not_mem_nil⟩
  | locate => exact ⟨comes trivial, fun u ds v => by simp⟩
  | launch => exact ⟨comes trivial, fun u ds v => by simp⟩
  | giveUp | discard => exact ⟨gone, fun u ds v => List.not_mem_nil⟩
  | accept _ target o stage current =>
    have late : ¬ t.stage.IsEarly := stage ▸ id
    exact absurd ⟨ho.lookup_of_late ht late, isCurrent_iff.mp current⟩ outdated
  | enter _ stage | look _ stage | remove _ stage | skip _ stage | miss _ stage
  | capture _ _ stage | reject _ _ stage | clear _ stage | record _ _ _ stage
  | complain _ _ _ _ stage | publish _ _ _ stage | delete _ stage | forget _ stage =>
    rw [stage] at working
    exact working.elim

/-- A move leaves a task at work, or ends it, and nothing is published by it, if a newer task was
started for its document before. -/
theorem Run.working_step (run : Run (ofSettings settings) ms m.before) (legal : m.IsLegal)
    (begun : t.key ∈ started ms) (later : ∃ t' ∈ started ms, t'.uri = t.uri ∧ t.id < t'.id)
    (working : ∀ t' ∈ m.before.tasks, t'.id = t.id → t'.stage.IsWorking) :
    (∀ t' ∈ m.after.tasks, t'.id = t.id → t'.stage.IsWorking) ∧
      ∀ u ds v, .published t.id u ds v ∉ m.outputs := by
  have ho := run.orderly (orderly_ofSettings settings)
  obtain ⟨t₂, ht₂, hu₂, hlt₂⟩ := later
  cases MoveEffect.of_move? legal with
  | begins h₁ same eq silent =>
    refine ⟨?_, fun u ds v hp => absurd (silent ▸ hp) List.not_mem_nil⟩
    intro t' ht' hid
    rw [tasks_of_begins ho.toWellKept same eq] at ht'
    rcases List.mem_append.mp ht' with ht' | ht'
    · exact working t' ht' hid
    · -- The numbers of new tasks are new.
      have hle := le_id_of_mem_newTasks ht'
      have hlt := run.ledger.id_lt t₂ ht₂
      rw [same.nextTask] at hle
      omega
  | steps t₁ a _ known step =>
    have ht₁ := (mem_of_task? known).1
    by_cases hid₁ : t₁.id = t.id
    · have outdated : ¬ m.before.IsLatest t₁ := by
        intro latest
        have hkey : t₁.key = t.key := run.eq_of_id_started (run.ledger.known t₁ ht₁) begun hid₁
        have huri : t₁.uri = t.uri := (Task.key_eq_iff.mp hkey).2.1
        have hle := run.ledger.last t₁ ht₁ latest t₂ ht₂ (hu₂.trans huri.symm)
        omega
      exact hid₁ ▸ step.working ho ht₁ (working t₁ ht₁ hid₁) outdated
    · refine ⟨?_, fun u ds v hp => hid₁ (step.of_published hp).1.symm⟩
      intro t' ht' hid
      rcases step.effect.origin ho.toAssigned ht₁ ht' with ⟨hmem, -⟩ | ⟨-, s', rfl, -⟩
      · exact working t' hmem hid
      · exact absurd hid hid₁

/-- A task that takes its document after a newer trigger of it has come is at work or has ended, and
has not published since. -/
theorem Run.working_of_overtaken (run : Run (ofSettings settings) (l ++ s :: r) h)
    (captures : s.Captures t d) (later : ∃ t' ∈ started l, t'.uri = t.uri ∧ t.id < t'.id) :
    (∀ t' ∈ h.tasks, t'.id = t.id → t'.stage.IsWorking) ∧
      ∀ m ∈ s :: r, ∀ u ds v, .published t.id u ds v ∉ m.outputs := by
  induction r using List.reverseRecOn generalizing h with
  | nil =>
    obtain ⟨-, legal, rfl⟩ := run.concat_inv
    obtain ⟨silent, working⟩ := captures.working legal
    refine ⟨working, fun m hm u ds v hp => ?_⟩
    rw [List.mem_singleton.mp hm, silent] at hp
    exact absurd hp List.not_mem_nil
  | append_singleton r m ih =>
    rw [← List.cons_append, ← List.append_assoc] at run
    obtain ⟨hpast, legal, rfl⟩ := run.concat_inv
    obtain ⟨working, silent⟩ := ih hpast
    have begun : t.key ∈ started (l ++ s :: r) :=
      started_append ▸ List.mem_append_left _
        (hpast.split.1.ledger.known { t with stage := .looking } (mem_of_task? captures.1).1)
    obtain ⟨t₂, ht₂, hu₂, hlt₂⟩ := later
    have hstarted : t₂ ∈ started (l ++ s :: r) := started_append ▸ List.mem_append_left _ ht₂
    obtain ⟨working', now⟩ := hpast.working_step legal begun ⟨t₂, hstarted, hu₂, hlt₂⟩ working
    refine ⟨working', fun m' hm' => ?_⟩
    rw [← List.cons_append] at hm'
    rcases List.mem_append.mp hm' with hm' | hm'
    · exact silent m' hm'
    · exact List.mem_singleton.mp hm' ▸ now

/-- **A task that takes its document after a newer trigger of it has come never publishes.** -/
theorem Run.not_published_of_overtaken (run : Run (ofSettings settings) (l ++ s :: r) h)
    (captures : s.Captures t d) (later : ∃ t' ∈ started l, t'.uri = t.uri ∧ t.id < t'.id) :
    t.id ∉ publishers t.uri (l ++ s :: r) := by
  intro hmem
  obtain ⟨m, hm, ds, v, hp⟩ := mem_publishers.mp hmem
  rcases List.mem_append.mp hm with hm | hm
  · -- A task that is about to look its document up has not published before.
    have hbefore : t.id ∈ publishers t.uri l := mem_publishers.mpr ⟨m, hm, ds, v, hp⟩
    have seq := run.split.1.sequenced t.uri
    rcases seq.pending _ (mem_of_task? captures.1).1 rfl t.id hbefore with hlt | ⟨-, hf⟩ | ⟨he, -⟩
    · exact Nat.lt_irrefl _ hlt
    · cases hf
    · exact he
  · exact (run.working_of_overtaken captures later).2 m hm t.uri ds v hp

end Hub

end LintBridge
