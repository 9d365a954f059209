import LintBridge.Proofs.Hub.Run

/-!
# What moves do apart from turns

The documents, the folders and the timers of a hub are changed by what the editor tells and by the
timers themselves. No task changes them, and no trigger does (`Hub.Unmoved`). So for all that does
not depend on turns there are only a few kinds of moves (`Hub.Tidings`), and a fact about documents,
folders or timers is shown to be kept by looking at these.

## Main definitions

* `Hub.Unmoved` — the documents, the folders and the timers are as they were.
* `Hub.timersFor` — the timers that a notice starts.
* `Hub.Tidings` — what a move does apart from turns.

## Main results

* `Hub.Tidings.of_isLegal` — these are all the moves.
-/

namespace LintBridge

namespace Hub

variable {h h' h'' : Hub} {m : Moment} {uri : Uri} {work : Work}

/-- The documents, the folders and the timers are as they were. -/
structure Unmoved (h h' : Hub) : Prop where
  documents : h'.documents = h.documents
  folders : h'.folders = h.folders
  timers : h'.timers = h.timers
  nextTimer : h'.nextTimer = h.nextTimer

theorem Unmoved.refl (h : Hub) : Unmoved h h := ⟨rfl, rfl, rfl, rfl⟩

theorem Unmoved.trans (first : Unmoved h h') (second : Unmoved h' h'') : Unmoved h h'' :=
  ⟨second.documents.trans first.documents, second.folders.trans first.folders,
    second.timers.trans first.timers, second.nextTimer.trans first.nextTimer⟩

/-! ### Triggers and tasks -/

theorem unmoved_begin (h : Hub) (uri : Uri) (work : Work) : Unmoved h (h.begin uri work) := by
  have hslot : Unmoved h (h.withSlot uri).1 := by
    unfold withSlot
    split
    · exact .refl h
    · exact ⟨rfl, rfl, rfl, rfl⟩
  exact hslot.trans ⟨rfl, rfl, rfl, rfl⟩

theorem unmoved_beginAll (calls : List (Uri × Work)) : Unmoved h (h.beginAll calls) := by
  induction calls generalizing h with
  | nil => exact .refl h
  | cons c calls ih => exact (unmoved_begin h c.1 c.2).trans ih

theorem unmoved_refreshAll : Unmoved h h.refreshAll :=
  refreshAll_eq (h := h) ▸ unmoved_beginAll _

theorem TaskStep.unmoved {t : Task} {a : Answer} {outs : List HubOutput}
    (step : TaskStep h t a h' outs) : Unmoved h h' := by
  cases step with
  | record _ target o _ =>
    have hrecord : Unmoved h (h.record target o).1 := by
      unfold Hub.record
      split
      · split
        · exact .refl h
        · exact ⟨rfl, rfl, rfl, rfl⟩
      · exact .refl h
      · exact ⟨rfl, rfl, rfl, rfl⟩
    exact hrecord.trans ⟨rfl, rfl, rfl, rfl⟩
  | forget =>
    have hforget : Unmoved h (h.forget t.uri t.slot t.generation) := by
      unfold Hub.forget
      split
      · exact ⟨rfl, rfl, rfl, rfl⟩
      · exact .refl h
    exact hforget.trans ⟨rfl, rfl, rfl, rfl⟩
  | _ => exact ⟨rfl, rfl, rfl, rfl⟩

/-! ### Kinds of moves -/

/-- The timers that a notice starts: one for an edit, while documents are linted on changes. -/
def timersFor (h : Hub) (e : DocumentEvent) : List Timer :=
  match (h.documents.apply e).trigger e with
  | some (.debounce uri version) =>
    if h.settings.lintOnChange then [⟨h.nextTimer, uri, version, false⟩] else []
  | _ => []

/-- The hub after a timer was found to be current. -/
def markDue (h : Hub) (k : Nat) : Hub :=
  { h with timers := h.timers.map fun t => if t.id = k then { t with isDue := true } else t }

/-- The move is no notice of the editor about documents or folders, and is about no timer. -/
def Move.isQuiet : Move → Bool
  | .call .. => true
  | .event (.focus _) => true
  | .event (.configure _) => true
  | .event (.advance ..) => true
  | _ => false

/-- What a move does to the documents, the folders and the timers. -/
inductive Tidings (h : Hub) : Move → Hub → Prop where
  /-- The editor has told of a document. -/
  | told (e : DocumentEvent) {h' : Hub} (documents : h'.documents = h.documents.apply e)
    (folders : h'.folders = h.folders) (timers : h'.timers = h.timers ++ h.timersFor e)
    (nextTimer : h'.nextTimer = h.nextTimer + (h.timersFor e).length) :
    Tidings h (.event (.document e)) h'
  /-- The editor has opened and closed folders. -/
  | rearranged (added removed : List Uri) :
    Tidings h (.event (.folders added removed))
      { h with folders := Workspace.changeFolders h.folders added removed }
  /-- The delay of a timer is over, and the document is as the edit has left it. -/
  | fell {t : Timer} (k : Nat) (known : h.timer? k = some t) (waiting : t.isDue = false)
    (current : h.isOpenAt t.uri t.version) :
    Tidings h (.event (.elapse k)) (h.markDue k)
  /-- The delay of a timer is over, and the document is at another version or closed. -/
  | lapsed {t : Timer} (k : Nat) (known : h.timer? k = some t) (waiting : t.isDue = false)
    (outdated : ¬ h.isOpenAt t.uri t.version) : Tidings h (.event (.elapse k)) (h.dropTimer k)
  /-- A timer that is due has started its task. -/
  | fired {t : Timer} {h' : Hub} (k : Nat) (known : h.timer? k = some t) (due : t.isDue)
    (rest : Unmoved (h.dropTimer k) h') : Tidings h (.event (.fire k)) h'
  /-- All is as it was. -/
  | quiet {move : Move} {h' : Hub} (quiet : move.isQuiet) (rest : Unmoved h h') :
    Tidings h move h'

private theorem tidings_applyDocument (e : DocumentEvent) :
    Tidings h (.event (.document e)) (h.applyDocument e) := by
  unfold applyDocument
  dsimp only
  cases htrigger : (h.documents.apply e).trigger e with
  | none =>
    have hnone : h.timersFor e = [] := by rw [timersFor, htrigger]
    exact .told e rfl rfl (by rw [hnone, List.append_nil]) (by rw [hnone]; rfl)
  | some trigger =>
    have begun {uri : Uri} {work : Work} (hnone : h.timersFor e = []) :
        Tidings h (.event (.document e))
          (Hub.begin { h with documents := h.documents.apply e } uri work) := by
      obtain ⟨documents, folders, timers, nextTimer⟩ :=
        unmoved_begin { h with documents := h.documents.apply e } uri work
      exact .told e documents folders (timers.trans (by rw [hnone, List.append_nil]))
        (nextTimer.trans (by rw [hnone]; rfl))
    cases trigger with
    | refresh uri | delete uri => exact begun (by rw [timersFor, htrigger])
    | debounce uri version =>
      by_cases on : h.settings.lintOnChange
      · have hone : h.timersFor e = [⟨h.nextTimer, uri, version, false⟩] := by
          rw [timersFor, htrigger]
          exact if_pos on
        have hpull : ({ h with documents := h.documents.apply e } : Hub).pull
            (.debounce uri version) =
            ({ h with documents := h.documents.apply e } : Hub).startTimer uri version := if_pos on
        dsimp only
        rw [hpull]
        exact .told e rfl rfl (by rw [hone]; rfl) (by rw [hone]; rfl)
      · have hnone : h.timersFor e = [] := by
          rw [timersFor, htrigger]
          exact if_neg on
        have hpull : ({ h with documents := h.documents.apply e } : Hub).pull
            (.debounce uri version) = { h with documents := h.documents.apply e } := if_neg on
        dsimp only
        rw [hpull]
        exact .told e rfl rfl (by rw [hnone, List.append_nil]) (by rw [hnone]; rfl)

/-- **What a move does apart from turns.** -/
theorem Tidings.of_isLegal (legal : m.IsLegal) : Tidings m.before m.move m.after := by
  obtain ⟨h, move, outs, h'⟩ := m
  simp only [Moment.IsLegal] at legal
  cases move with
  | call uri work =>
    obtain ⟨rfl, rfl⟩ := Prod.mk.inj (Option.some.inj legal)
    exact .quiet rfl (unmoved_begin _ _ _)
  | event e =>
    cases e <;> simp only [move?, step?] at legal
    case document e =>
      obtain ⟨rfl, rfl⟩ := Prod.mk.inj (Option.some.inj legal)
      exact tidings_applyDocument e
    case focus uri =>
      obtain ⟨rfl, rfl⟩ := Prod.mk.inj (Option.some.inj legal)
      refine .quiet rfl ?_
      simp only [applyFocus]
      split
      · exact unmoved_begin _ _ _
      · exact .refl h
    case configure payload =>
      obtain ⟨rfl, rfl⟩ := Prod.mk.inj (Option.some.inj legal)
      have hclient : Unmoved h { h.updateClient payload with
          locator := { (h.updateClient payload).locator with cache := none } } :=
        ⟨rfl, rfl, rfl, rfl⟩
      exact .quiet rfl (hclient.trans unmoved_refreshAll)
    case folders added removed =>
      obtain ⟨rfl, rfl⟩ := Prod.mk.inj (Option.some.inj legal)
      exact .rearranged added removed
    case elapse k =>
      split at legal
      · next t known =>
        split at legal
        · cases legal
        · next waiting =>
          have waiting : t.isDue = false := by simpa using waiting
          split at legal
          · next current =>
            obtain ⟨rfl, rfl⟩ := Prod.mk.inj (Option.some.inj legal)
            exact .fell k known waiting current
          · next outdated =>
            obtain ⟨rfl, rfl⟩ := Prod.mk.inj (Option.some.inj legal)
            exact .lapsed k known waiting outdated
      · cases legal
    case fire k =>
      split at legal
      · next t known =>
        split at legal
        · next due =>
          obtain ⟨rfl, rfl⟩ := Prod.mk.inj (Option.some.inj legal)
          exact .fired k known due (unmoved_begin _ _ _)
        · cases legal
      · cases legal
    case advance task a =>
      split at legal
      · exact .quiet rfl (TaskStep.of_stepTask legal).unmoved
      · cases legal

end Hub

end LintBridge
