import LintBridge.Proofs.Document.Store
import LintBridge.Proofs.Hub.Tidings

/-!
# Notices in a run

The documents of a hub are what the notices of its run have made of them. Nothing else that happens
at the hub, and no task, changes them.

A fact about the past of a run is stated with `Hub.Once`: at some moment something was the case,
with the moments before that one. Such facts are never lost as a run goes on.

## Main definitions

* `Hub.notices` — what the editor told of documents in a run.
* `Hub.Once` — something was the case at some moment of a run.

## Main results

* `Hub.Run.documents_eq_told` — the documents are what the notices have made of them.
-/

namespace LintBridge

namespace Hub

variable {h h' : Hub} {ms ms' : List Moment} {m : Moment} {settings : SettingsStore}

/-! ### Notices -/

/-- What the editor tells of a document at a moment, if it does. -/
def Moment.notice? (m : Moment) : Option DocumentEvent :=
  match m.move with
  | .event (.document e) => some e
  | _ => none

/-- What the editor told of documents in a run, in order. -/
def notices (ms : List Moment) : List DocumentEvent := ms.filterMap Moment.notice?

theorem notices_concat : notices (ms ++ [m]) = notices ms ++ m.notice?.toList := by
  cases hn : m.notice? <;> simp [notices, hn]

/-- Only notices change documents. -/
theorem Moment.documents (legal : m.IsLegal) :
    m.after.documents =
      match m.notice? with
      | some e => m.before.documents.apply e
      | none => m.before.documents := by
  have htidings := Tidings.of_isLegal legal
  obtain ⟨before, move, outputs, after⟩ := m
  dsimp only at htidings ⊢
  cases htidings with
  | told e documents => exact documents
  | rearranged | fell | lapsed => rfl
  | fired k known due rest => exact rest.documents
  | quiet quiet rest =>
    cases move with
    | call => exact rest.documents
    | event e => cases e <;> first | exact rest.documents | cases quiet

/-- **The documents are what the notices of the run have made of them.** -/
theorem Run.documents_eq_told (run : Run (ofSettings settings) ms h) :
    h.documents = Documents.told (notices ms) := by
  induction run with
  | stay => rfl
  | next m past legal ih =>
    rw [Moment.documents legal, notices_concat, ih]
    cases m.notice? with
    | none => simp
    | some e => exact (Documents.told_concat _ e).symm

/-! ### What was once the case -/

/-- At some moment of a run, something was the case of that moment and the moments before it. -/
def Once (p : List Moment → Moment → Prop) (ms : List Moment) : Prop :=
  ∃ past m future, ms = past ++ m :: future ∧ p past m

variable {p : List Moment → Moment → Prop}

theorem Once.append (once : Once p ms) (ms' : List Moment) : Once p (ms ++ ms') := by
  obtain ⟨past, m, future, rfl, hp⟩ := once
  exact ⟨past, m, future ++ ms', by simp, hp⟩

theorem Once.now (hp : p ms m) : Once p (ms ++ [m]) := ⟨ms, m, [], rfl, hp⟩

end Hub

end LintBridge
