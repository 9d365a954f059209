import LintBridge.Proofs.Document.History

/-!
# The versions of a document

A document has the version that it was given last since its last close. While the versions that it
is given rise, it is at a version again after later notices only if these say nothing of versions
and do not close it, or if it was closed and has come to the very version once more
(`Documents.latest_version?_iff`).

## Main definitions

* `Documents.Rising` — the versions given since the last close rise.
* `Documents.Untouched` — a document is neither opened, nor changed to a text, nor closed.
* `Documents.Returns` — a document is closed and comes to a version afterwards.
-/

namespace LintBridge

namespace Documents

variable {u : Uri} {v : Int} {e : DocumentEvent} {es es' : List DocumentEvent}

/-! ### Two parts of a history -/

/-- A close in the later part ends the earlier one. -/
theorem since_append_of_closed (closed : ∃ e ∈ es', e.uri = u ∧ e.isClose) :
    since u (es ++ es') = since u es' := by
  induction es' using List.reverseRecOn with
  | nil => simp at closed
  | append_singleton es' e ih =>
    rw [← List.append_assoc, since_concat, since_concat]
    by_cases hlast : e.uri = u ∧ e.isClose
    · rw [if_pos hlast.1, if_pos hlast.2, if_pos hlast.1, if_pos hlast.2]
    · obtain ⟨n, hn, hclosed⟩ := closed
      have hbefore : n ∈ es' := by
        rcases List.mem_append.mp hn with hn | hn
        · exact hn
        · exact absurd (List.mem_singleton.mp hn ▸ hclosed) hlast
      rw [ih ⟨n, hbefore, hclosed⟩]

theorem since_append_of_not_closed (unclosed : ¬ ∃ e ∈ es', e.uri = u ∧ e.isClose) :
    since u (es ++ es') = since u es ++ es'.filter fun e => e.uri = u := by
  induction es' using List.reverseRecOn with
  | nil => simp
  | append_singleton es' e ih =>
    have hbefore : ¬ ∃ e ∈ es', e.uri = u ∧ e.isClose := fun ⟨n, hn, hclosed⟩ =>
      unclosed ⟨n, List.mem_append_left _ hn, hclosed⟩
    rw [← List.append_assoc, since_concat, ih hbefore, List.filter_append]
    by_cases hu : e.uri = u
    · have hclose : ¬ e.isClose := fun hclose => unclosed ⟨e, by simp, hu, hclose⟩
      simp [hu, hclose]
    · simp [hu]

/-! ### Versions -/

/-- The versions that a document was given since its last close, in order. -/
def versions (u : Uri) (es : List DocumentEvent) : List Int :=
  (since u es).filterMap DocumentEvent.version?

/-- The versions that a document was given since its last close rise. -/
def Rising (u : Uri) (es : List DocumentEvent) : Prop := (versions u es).Pairwise (· < ·)

instance : Decidable (Rising u es) :=
  inferInstanceAs (Decidable ((versions u es).Pairwise (· < ·)))

/-- A document is neither opened, nor changed to a text, nor closed. -/
def Untouched (u : Uri) (es : List DocumentEvent) : Prop :=
  ∀ e ∈ es, e.uri = u → e.creates = false ∧ e.isClose = false

/-- A document is closed, and after its last close it comes to a version. -/
def Returns (u : Uri) (v : Int) (es : List DocumentEvent) : Prop :=
  (∃ e ∈ es, e.uri = u ∧ e.isClose) ∧ (versions u es).getLast? = some v

instance : Decidable (Untouched u es) :=
  inferInstanceAs (Decidable (∀ e ∈ es, e.uri = u → e.creates = false ∧ e.isClose = false))

instance : Decidable (Returns u v es) :=
  inferInstanceAs (Decidable ((∃ e ∈ es, e.uri = u ∧ e.isClose) ∧
    (versions u es).getLast? = some v))

theorem isSome_version? : e.version?.isSome = e.creates := by
  cases e with
  | changed v version texts => cases texts <;> rfl
  | _ => rfl

/-- A list that rises ends with one of its members only if nothing follows it. -/
private theorem getLast?_of_rising {before after : List Int}
    (rising : (before ++ v :: after).Pairwise (· < ·)) :
    (before ++ v :: after).getLast? = some v ↔ after = [] := by
  cases after using List.reverseRecOn with
  | nil => simp
  | append_singleton after w =>
    have hlt : v < w := by
      obtain ⟨-, hrest, -⟩ := List.pairwise_append.mp rising
      exact List.rel_of_pairwise_cons hrest (by simp)
    rw [← List.cons_append, ← List.append_assoc, List.getLast?_concat]
    simp [(Int.ne_of_lt hlt).symm]

/-- **When a document is still at a version.** After a notice has given it the version, either
nothing touches it, or it is closed and comes to the same version once more. -/
theorem latest_version?_iff (hu : e.uri = u) (hv : e.version? = some v)
    (rising : Rising u (es ++ e :: es')) :
    (versions u (es ++ e :: es')).getLast? = some v ↔ Untouched u es' ∨ Returns u v es' := by
  by_cases closed : ∃ n ∈ es', n.uri = u ∧ n.isClose
  · have hsince : since u (es ++ e :: es') = since u es' := by
      rw [List.append_cons, since_append_of_closed closed]
    have touched : ¬ Untouched u es' := by
      obtain ⟨n, hn, hnu, hclose⟩ := closed
      intro untouched
      rw [(untouched n hn hnu).2] at hclose
      cases hclose
    rw [versions, hsince, or_iff_right touched]
    exact (and_iff_right closed).symm
  · have hopen : e.isClose = false := by
      cases e with
      | closed => cases hv
      | _ => rfl
    have hversions : versions u (es ++ e :: es') =
        versions u es ++ v :: (es'.filter fun n => n.uri = u).filterMap DocumentEvent.version? := by
      rw [versions, List.append_cons, since_append_of_not_closed closed, since_concat, if_pos hu,
        hopen, if_neg Bool.false_ne_true]
      simp [versions, hv]
    have unreturned : ¬ Returns u v es' := fun returns => closed returns.1
    rw [Rising, hversions] at rising
    rw [hversions, getLast?_of_rising rising, or_iff_left unreturned, List.filterMap_eq_nil_iff]
    simp only [List.mem_filter, decide_eq_true_eq, and_imp, Untouched]
    refine forall₃_congr fun n hn hnu => ?_
    have hclose : n.isClose = false := by
      by_contra hclose
      exact closed ⟨n, hn, hnu, by simpa using hclose⟩
    rw [← isSome_version?, Option.isSome_eq_false_iff, Option.isNone_iff_eq_none,
      and_iff_left hclose]

/-- **The stored version is the one that was given last.** -/
theorem version_told (u : Uri) (es : List DocumentEvent) :
    ((told es).get? u).map Document.version = (versions u es).getLast? :=
  (reflects_told u es).version.symm.trans latest_version?_life

end Documents

end LintBridge
