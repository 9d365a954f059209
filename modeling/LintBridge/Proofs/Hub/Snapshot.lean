import LintBridge.Proofs.Hub.Notices
import LintBridge.Proofs.Hub.Sequence
import LintBridge.Proofs.Report.LineTable

/-!
# Publications belong to snapshots

A refresh takes its document once, after its turn has come, and keeps it to the end. Documents may
be changed, closed and opened again meanwhile; the version, the text and the ranges that are
published all come from what the task has taken.

The argument keeps an account of every task (`Hub.Account`): for every stage that the task can be
at, what has happened in the run before, in which order. The stage alone tells which of these facts
hold, so a step of the task adds one fact and a step of anything else loses none.

## Main definitions

* `Hub.noticed` — what the notices of a run have made of a document.
* `Hub.Moment.Captures` — a task takes its document.
* `Hub.IsBegun`, `Hub.HasCaptured`, `Hub.HasLaunched`, `Hub.HasHeard` — how far a refresh has come,
  with what it has taken on the way.
* `Hub.Account` — what has happened to a task at each stage.

## Main results

* `Hub.Run.account` — every task is accounted for.
* `Hub.Run.of_snapshots` — publications and runs of the linter belong to snapshots.
-/

namespace LintBridge

namespace Hub

variable {h h' mid : Hub} {t t' : Task} {ms past future : List Moment} {m : Moment}
  {settings : SettingsStore} {d : Document} {o : Outcome} {k : Nat}

/-! ### What has happened to a refresh -/

/-- What the notices of a run have made of a document. -/
def noticed (uri : Uri) (ms : List Moment) : Option Document :=
  ((notices ms).filter fun e => e.uri = uri).foldl (fun d e => e.next d) none

/-- A document is what the notices about it have made of it. -/
theorem Run.get?_documents (run : Run (ofSettings settings) ms h) (uri : Uri) :
    h.documents.get? uri = noticed uri ms := by
  rw [run.documents_eq_told]
  exact Documents.get?_told _

/-- The task was started. -/
def IsBegun (t : Task) (ms : List Moment) : Prop :=
  Once (fun _ m => t.key ∈ m.started) ms

/-- At the moment, a task looks its document up and takes it, as it is open and to be linted. -/
def Moment.Captures (m : Moment) (t : Task) (d : Document) : Prop :=
  m.before.task? t.id = some { t with stage := .looking } ∧
    (∃ a, m.move = .event (.advance t.id a)) ∧
    m.before.documents.get? t.uri = some d ∧ d.isTarget t.uri

/-- After it was started, the task took its document. What it took is what all notices so far had
made of the document. -/
def HasCaptured (t : Task) (d : Document) (ms : List Moment) : Prop :=
  Once (fun past m => IsBegun t past ∧ m.Captures t d ∧ noticed t.uri past = some d) ms

/-- After it took its document, the task started the linter on what it had taken. -/
def HasLaunched (t : Task) (d : Document) (ms : List Moment) : Prop :=
  Once (fun past m => HasCaptured t d past ∧
    ∃ job, .started t.id job (d.target t.uri) ∈ m.outputs) ms

/-- After it started the linter, the task heard what came of it. -/
def HasHeard (t : Task) (d : Document) (o : Outcome) (ms : List Moment) : Prop :=
  Once (fun past m => HasLaunched t d past ∧ m.move = .event (.advance t.id (.outcome o))) ms

/-! ### The account of a task -/

/-- What has happened to a task when it comes to a stage. -/
def Account (ms : List Moment) (t : Task) : Stage → Prop
  | .queued | .admitted | .deleting => True
  | .forgetting => Once (fun _ m => .published t.id t.uri [] none ∈ m.outputs) ms
  | .looking | .clearing => t.work = .refresh
  | .gathering d | .locating d _ _ | .equipped d _ _ => t.work = .refresh ∧ HasCaptured t d ms
  | .running _ target => t.work = .refresh ∧ ∃ d, target = d.target t.uri ∧ HasLaunched t d ms
  | .judging target o | .recording target o | .complaining target o _ | .publishing target o =>
    t.work = .refresh ∧ ∃ d, target = d.target t.uri ∧ HasHeard t d o ms

theorem Account.append {s : Stage} (account : Account ms t s) (ms' : List Moment) :
    Account (ms ++ ms') t s := by
  cases s with
  | queued | admitted | deleting => trivial
  | forgetting => exact Once.append account ms'
  | looking | clearing => exact account
  | gathering | locating | equipped => exact ⟨account.1, account.2.append ms'⟩
  | running | judging | recording | complaining | publishing =>
    obtain ⟨work, d, htarget, once⟩ := account
    exact ⟨work, d, htarget, once.append ms'⟩

theorem Account.record {target : LintTarget} (account : Account ms t (.recording target o)) :
    Account ms t (h.record target o).2 := by
  unfold Hub.record
  split
  · split <;> exact account
  · exact account
  · exact account

/-- The task that takes a step comes to a stage with what has happened to it, and the step is one
more thing that has happened. -/
theorem TaskStep.account {a : Answer} {outs : List HubOutput} (step : TaskStep h t a h' outs)
    (run : Run (ofSettings settings) ms h) (known : h.task? t.id = some t) (begun : IsBegun t ms)
    (account : Account ms t t.stage) (ht' : t' ∈ h'.tasks) (hid : t'.id = t.id) :
    ∃ s, t' = { t with stage := s } ∧
      Account (ms ++ [⟨h, .event (.advance t.id a), outs, h'⟩]) t s := by
  have ho := run.orderly (orderly_ofSettings settings)
  -- What is left to say is which stage the task comes to.
  have comes {s : Stage} {h₁ : Hub} {l : List Moment} (hmem : t' ∈ (h₁.moveTo t.id s).tasks)
      (same : h₁.tasks = h.tasks) (hs : Account l t s) :
      ∃ s, t' = { t with stage := s } ∧ Account l t s := by
    rcases mem_tasks_moveTo.mp hmem with ⟨t₀, ht₀, hid₀, rfl⟩ | ⟨-, hne⟩
    · obtain rfl := ho.eq_of_id (same ▸ ht₀) (mem_of_task? known).1 hid₀
      exact ⟨s, rfl, hs⟩
    · exact absurd hid hne
  cases step with
  | enter | remove => exact comes ht' rfl trivial
  | delete => exact comes ht' rfl (Once.now (List.mem_singleton_self _))
  | skip | miss | clear | giveUp | discard | publish | forget =>
    exact absurd hid (mem_tasks_finish.mp ht').2
  | look _ _ _ work => exact comes ht' rfl work
  | capture _ d stage found target =>
    rw [stage] at account
    have looking : h.task? t.id = some { t with stage := .looking } := by rw [known, ← stage]
    refine comes ht' rfl ⟨account, .now ⟨begun, ⟨looking, ⟨a, rfl⟩, found, target⟩, ?_⟩⟩
    exact (run.get?_documents t.uri).symm.trans found
  | launch _ d folders executable stage =>
    rw [stage] at account
    exact comes ht' rfl ⟨account.1, d, rfl, .now ⟨account.2, _, List.mem_singleton_self _⟩⟩
  | collect o job target stage =>
    rw [stage] at account
    obtain ⟨work, d, htarget, launched⟩ := account
    exact comes ht' rfl ⟨work, d, htarget, .now ⟨launched, rfl⟩⟩
  | record _ target o stage =>
    rw [stage] at account
    exact comes ht' (sameTurns_record target o).tasks (account.append _).record
  | reject _ _ stage =>
    rw [stage] at account
    exact comes (l := ms ++ _) ht' rfl account
  | gather _ _ stage | locate _ _ _ _ _ _ _ stage | equip _ _ _ _ stage | accept _ _ _ stage
  | complain _ _ _ _ stage =>
    -- The task has no more to its account than before.
    rw [stage] at account
    exact comes ht' rfl (account.append _)

/-- **Every task is accounted for.** It was started, and what its stage says has happened to it. -/
theorem Run.account (run : Run (ofSettings settings) ms h) (ht : t ∈ h.tasks) :
    IsBegun t ms ∧ Account ms t t.stage := by
  induction run generalizing t with
  | stay => exact absurd ht List.not_mem_nil
  | next m past legal ih =>
    have ho := past.orderly (orderly_ofSettings settings)
    cases MoveEffect.of_move? legal with
    | begins h₁ same eq silent =>
      rw [tasks_of_begins ho.toWellKept same eq] at ht
      rcases List.mem_append.mp ht with ht | ht
      · obtain ⟨begun, account⟩ := ih ht
        exact ⟨begun.append [m], account.append [m]⟩
      · have stage := stage_of_mem_newTasks ht
        have hkey : t.key = t := by rw [Task.key, ← stage]
        have hstarted : t.key ∈ m.started := by
          rw [started_of_begins ho.toAssigned same eq, hkey]
          exact ht
        rw [stage]
        exact ⟨.now hstarted, trivial⟩
    | steps t₁ a move_eq known step =>
      obtain ⟨before, move, outs, after⟩ := m
      obtain rfl : move = .event (.advance t₁.id a) := move_eq
      have ht₁ := (mem_of_task? known).1
      by_cases hid : t.id = t₁.id
      · obtain ⟨begun, account⟩ := ih ht₁
        obtain ⟨s, rfl, account'⟩ := step.account past known begun account ht hid
        exact ⟨begun.append _, account'⟩
      · rcases step.effect.origin ho.toAssigned ht₁ ht with ⟨hmem, -⟩ | ⟨-, s, rfl, -⟩
        · obtain ⟨begun, account⟩ := ih hmem
          exact ⟨begun.append _, account.append _⟩
        · exact absurd rfl hid

/-! ### What is seen from outside -/

/-- A publication with a version is that of a refresh that has heard what came of its run. -/
theorem Run.heard_of_published (run : Run (ofSettings settings) ms m.before) (legal : m.IsLegal)
    {uri : Uri} {ds : List Diagnostic} {v : Int}
    (hp : .published k uri ds (some v) ∈ m.outputs) :
    ∃ t d o, t.id = k ∧ t.uri = uri ∧ t.work = .refresh ∧ HasHeard t d o ms ∧ v = d.version ∧
      ds = diagnosticsOf (d.target uri) o := by
  obtain ⟨t, a, known, step⟩ := m.step_of_output legal hp
  obtain ⟨rfl, rfl, -, ⟨-, -, hv⟩ | ⟨target, o, stage, hds, hv⟩ | ⟨-, -, hv⟩⟩ :=
    step.of_published hp
  · cases hv
  · have account := (run.account (mem_of_task? known).1).2
    rw [stage] at account
    obtain ⟨work, d, rfl, heard⟩ := account
    exact ⟨t, d, o, rfl, rfl, work, heard, Option.some.inj hv, hds⟩
  · cases hv

/-- The linter is started by a refresh that has taken its document. -/
theorem Run.captured_of_started (run : Run (ofSettings settings) ms m.before) (legal : m.IsLegal)
    {job : LintJob} {target : LintTarget} (hs : .started k job target ∈ m.outputs) :
    ∃ t d, t.id = k ∧ HasCaptured t d ms ∧ target = d.target t.uri := by
  obtain ⟨t, a, known, step⟩ := m.step_of_output legal hs
  obtain ⟨rfl, d, folders, executable, stage, rfl⟩ := step.of_started hs
  have account := (run.account (mem_of_task? known).1).2
  rw [stage] at account
  exact ⟨t, d, rfl, account.2, rfl⟩

/-- At the moment, a task looks its document up and finds that it is open but not linted. -/
def Moment.Rejects (m : Moment) (t : Task) : Prop :=
  ∃ a d, m.before.task? t.id = some t ∧ t.stage = .looking ∧ m.move = .event (.advance t.id a) ∧
    m.before.documents.get? t.uri = some d ∧ ¬ d.isTarget t.uri

theorem Moment.Rejects.clearing (rejects : m.Rejects t) (legal : m.IsLegal) :
    m.after.task? t.id = some { t with stage := .clearing } := by
  obtain ⟨a, d, known, stage, move, found, other⟩ := rejects
  rw [IsLegal, move] at legal
  simp only [move?, step?, known, stepTask, stage, found, if_neg other, Option.some.injEq,
    Prod.mk.injEq] at legal
  rw [← legal.1]
  exact task?_moveTo known _

/-- A task that is about to take diagnostics away waits until it does so. -/
theorem Run.clears (run : Run mid future h) (ho : mid.Orderly) (ht : mid.task? k = some t)
    (stage : t.stage = .clearing) :
    (∃ m ∈ future, .published k t.uri [] none ∈ m.outputs) ∨ h.task? k = some t := by
  induction run with
  | stay => exact .inr ht
  | next m past legal ih =>
    rcases ih with ⟨m', hm', hp⟩ | hbefore
    · exact .inl ⟨m', List.mem_append_left _ hm', hp⟩
    have hbeforeOrderly := past.orderly ho
    cases MoveEffect.of_move? legal with
    | begins h₁ same eq silent =>
      exact .inr (task?_of_begins hbeforeOrderly.toWellKept same eq hbefore)
    | steps t₁ a move_eq known step =>
      by_cases hid : k = t₁.id
      · rw [hid, known] at hbefore
        obtain rfl := Option.some.inj hbefore
        refine .inl ⟨m, List.mem_append_right _ (List.mem_singleton_self m), ?_⟩
        rw [Moment.IsLegal, move_eq] at legal
        simp only [move?, step?, known, stepTask, stage, Option.some.injEq, Prod.mk.injEq] at legal
        rw [← legal.2, hid]
        exact List.mem_singleton_self _
      · exact .inr ((step.effect.task?_of_ne hid).trans hbefore)

/-- **Publications belong to snapshots.** For every run and every moment of it:

1. a publication with a version is that of a refresh, which was started for the document, then took
   it while it was open and to be linted, then started the linter on what it had taken, and then
   heard the outcome. What it took is what all notices about the document so far had made of it. The
   version is that of what was taken, the diagnostics are the findings of the outcome in its text,
   and each of them covers a whole line;
2. the linter is never started but by a task that has taken a document that is to be linted;
3. a refresh that finds an open document that is not linted takes its diagnostics away, or still has
   this step to take, and can take it. -/
theorem Run.of_snapshots (run : Run (ofSettings settings) (past ++ m :: future) h) :
    (∀ k uri ds v, .published k uri ds (some v) ∈ m.outputs →
      ∃ t d o, t.id = k ∧ t.uri = uri ∧ t.work = .refresh ∧ HasHeard t d o past ∧
        v = d.version ∧ ds = (o.findings d.text).map .ofFinding ∧
        ((∀ rs, o ≠ .problems rs) → ds = []) ∧ ∀ x ∈ ds, x.range.IsLineOf d.text) ∧
    (∀ k job target, .started k job target ∈ m.outputs →
      ∃ t d, t.id = k ∧ HasCaptured t d past ∧ target = d.target t.uri) ∧
    ∀ t, m.Rejects t → (∃ m' ∈ future, .published t.id t.uri [] none ∈ m'.outputs) ∨
      ∃ t', h.task? t.id = some t' ∧
        ∀ a, h.step? (.advance t.id a) = some (h.finish t', [.published t.id t.uri [] none]) := by
  obtain ⟨hpast, legal, hfuture⟩ := run.split
  refine ⟨?_, fun k job target => hpast.captured_of_started legal, ?_⟩
  · intro k uri ds v hp
    obtain ⟨t, d, o, hid, huri, work, heard, hv, hds⟩ := hpast.heard_of_published legal hp
    refine ⟨t, d, o, hid, huri, work, heard, hv, hds, ?_, ?_⟩
    · intro none
      rw [hds, diagnosticsOf, Outcome.findings_eq_nil _ none, List.map_nil]
    · intro x hx
      rw [hds] at hx
      obtain ⟨f, hf, rfl⟩ := List.mem_map.mp hx
      exact Outcome.isLineOf_of_mem_findings hf
  · intro t rejects
    have hmid := rejects.clearing legal
    have ho : m.after.Orderly :=
      (hpast.orderly (orderly_ofSettings settings)).move (.of_move? legal)
    rcases hfuture.clears ho hmid rfl with published | waiting
    · exact .inl published
    · refine .inr ⟨_, waiting, fun a => ?_⟩
      simp only [step?, waiting, stepTask]

/-- A draft that is edited while its refresh waits for its turn, and closed between the last
comparison and the publication. -/
def editing : List Move :=
  [openDraft 1, .event (.document (.changed draft 2 ["bad"]))] ++
    takes 0 ((lintAnswers (.problems [⟨1, "no good"⟩])).take 10) ++ [closeDraft] ++
    takes 0 ((lintAnswers (.problems [⟨1, "no good"⟩])).drop 10)

theorem editing_of_snapshots : ∃ past m h, Run (ofSettings .inMemory) (past ++ [m]) h ∧
    .published 0 draft [⟨⟨⟨0, 0⟩, ⟨0, 3⟩⟩, "no good"⟩] (some 2) ∈ m.outputs ∧
    ∃ t d o, t.id = 0 ∧ t.uri = draft ∧ HasHeard t d o past ∧ d.version = 2 ∧
      [(⟨⟨⟨0, 0⟩, ⟨0, 3⟩⟩, "no good"⟩ : Diagnostic)] = (o.findings d.text).map .ofFinding := by
  have seen : ((ofSettings .inMemory).follow editing).map
      (fun p => p.1.getLast?.map Moment.outputs) =
        some (some [.published 0 draft [⟨⟨⟨0, 0⟩, ⟨0, 3⟩⟩, "no good"⟩] (some 2)]) := by rfl
  obtain ⟨ms, h, run, -, seen⟩ := Run.exists_of_follow seen
  obtain ⟨m, hm, houts⟩ := Option.map_eq_some_iff.mp seen
  obtain ⟨past, rfl⟩ := List.getLast?_eq_some_iff.mp hm
  have published : .published 0 draft [⟨⟨⟨0, 0⟩, ⟨0, 3⟩⟩, "no good"⟩] (some 2) ∈ m.outputs :=
    houts ▸ List.mem_singleton_self _
  obtain ⟨t, d, o, hid, huri, -, heard, hv, hds, -⟩ := run.of_snapshots.1 _ _ _ _ published
  exact ⟨past, m, h, run, published, t, d, o, hid, huri, heard, hv.symm, hds⟩

end Hub

end LintBridge
