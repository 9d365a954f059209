import LintBridge.Document.Store

/-!
# What the editor has told of a document

The store of open documents holds, for every address, what the notices about that address make of
it; notices about other addresses make no difference. Each notice has its effect on a document
alone (`DocumentEvent.next`), and the store after a list of notices is read off by applying those
that are about the address, one after another.

## Main definitions

* `DocumentEvent.next` — what a notice makes of the document that it is about.
* `Documents.told` — the documents after some notices.

## Main results

* `Documents.get?_apply` — a notice changes the document that it is about, and no other.
* `Documents.get?_told` — a document is what the notices about it have made of it.
* `Documents.eq_closed_of_get?_apply` — only a close takes a document away.
-/

namespace LintBridge

/-- What a notice makes of the document that it is about. -/
def DocumentEvent.next (e : DocumentEvent) (d : Option Document) : Option Document :=
  match e with
  | .opened _ languageId version text => some ⟨text, version, languageId, false⟩
  | .changed _ version texts =>
    match texts.getLast? with
    | some text => some (Documents.edited d version text)
    | none => d
  | .saved _ text => d.map fun d => Documents.stored d text
  | .closed _ => none

namespace Documents

variable {ds : Documents} {d : Document} {u v : Uri}

theorem lookup_insertIn (l : List (Uri × Document)) :
    lookup v (insertIn u d l) = if v = u then some d else lookup v l := by
  induction l with
  | nil =>
    simp only [insertIn, lookup]
    split <;> next heq => simp [heq, eq_comm]
  | cons p l ih =>
    obtain ⟨w, d'⟩ := p
    simp only [insertIn]
    by_cases hw : w = u
    · subst hw
      rw [if_pos rfl]
      simp only [lookup]
      by_cases hv : w = v
      · simp [hv]
      · simp [hv, Ne.symm hv]
    · rw [if_neg hw]
      simp only [lookup, ih]
      by_cases hv : w = v
      · rw [if_pos hv, if_pos hv, if_neg (hv ▸ hw)]
      · rw [if_neg hv, if_neg hv]

theorem lookup_filter_ne (l : List (Uri × Document)) :
    lookup v (l.filter fun (w, _) => w ≠ u) = if v = u then none else lookup v l := by
  induction l with
  | nil => simp [lookup]
  | cons p l ih =>
    obtain ⟨w, d'⟩ := p
    by_cases hw : w = u
    · rw [List.filter_cons_of_neg (by simp [hw]), ih]
      by_cases hv : v = u
      · simp [hv]
      · simp [lookup, hv, hw, Ne.symm hv]
    · rw [List.filter_cons_of_pos (by simp [hw])]
      simp only [lookup, ih]
      by_cases hv : w = v
      · rw [if_pos hv, if_pos hv, if_neg (hv ▸ hw)]
      · rw [if_neg hv, if_neg hv]

theorem get?_insert : (ds.insert u d).get? v = if v = u then some d else ds.get? v :=
  lookup_insertIn ds.entries

theorem get?_erase : (ds.erase u).get? v = if v = u then none else ds.get? v :=
  lookup_filter_ne ds.entries

theorem get?_apply_self (e : DocumentEvent) : (ds.apply e).get? e.uri = e.next (ds.get? e.uri) := by
  cases e with
  | opened uri languageId version text => exact get?_insert.trans (if_pos rfl)
  | closed uri => exact get?_erase.trans (if_pos rfl)
  | changed uri version texts =>
    simp only [apply, DocumentEvent.next, DocumentEvent.uri]
    cases texts.getLast? with
    | none => rfl
    | some text => exact get?_insert.trans (if_pos rfl)
  | saved uri text =>
    simp only [apply, DocumentEvent.next, DocumentEvent.uri]
    cases hget : ds.get? uri with
    | none => exact hget
    | some d => exact get?_insert.trans (if_pos rfl)

theorem get?_apply_of_ne (e : DocumentEvent) (hv : v ≠ e.uri) :
    (ds.apply e).get? v = ds.get? v := by
  cases e with
  | opened uri languageId version text => exact get?_insert.trans (if_neg hv)
  | closed uri => exact get?_erase.trans (if_neg hv)
  | changed uri version texts =>
    simp only [apply]
    split
    · exact get?_insert.trans (if_neg hv)
    · rfl
  | saved uri text =>
    simp only [apply]
    split
    · exact get?_insert.trans (if_neg hv)
    · rfl

/-- **A notice changes the document that it is about, and no other.** -/
theorem get?_apply (e : DocumentEvent) :
    (ds.apply e).get? v = if v = e.uri then e.next (ds.get? v) else ds.get? v := by
  split
  · next hv =>
    rw [hv]
    exact get?_apply_self e
  · next hv => exact get?_apply_of_ne e hv

/-- Only a close takes a document away. -/
theorem eq_closed_of_get?_apply {e : DocumentEvent} (before : (ds.get? u).isSome)
    (after : (ds.apply e).get? u = none) : e = .closed u := by
  rw [get?_apply] at after
  split at after
  · next hu =>
    obtain ⟨d, hd⟩ := Option.isSome_iff_exists.mp before
    rw [hd] at after
    cases e with
    | closed v => rw [hu]; rfl
    | opened => cases after
    | saved => cases after
    | changed v version texts =>
      simp only [DocumentEvent.next] at after
      split at after <;> cases after
  · rw [after] at before
    cases before

/-- A document that a notice calls to be linted is there after the notice. -/
theorem isSome_of_trigger {e : DocumentEvent} (ht : (ds.apply e).trigger e = some (.refresh u)) :
    ((ds.apply e).get? u).isSome := by
  cases e with
  | opened uri languageId version text =>
    obtain rfl : uri = u := by simpa [trigger] using ht
    exact congrArg Option.isSome (get?_apply_self (.opened uri languageId version text))
  | changed uri version texts =>
    simp only [trigger] at ht
    split at ht <;> cases ht
  | saved uri text =>
    simp only [trigger] at ht
    split at ht
    · next d hd =>
      split at ht
      · cases ht
        rw [hd]
        rfl
      · cases ht
    · cases ht
  | closed uri => cases ht

/-- A document whose address is listed is there. -/
theorem isSome_of_mem_uris (hu : u ∈ ds.uris) : (ds.get? u).isSome := by
  obtain ⟨entries⟩ := ds
  simp only [uris, get?] at hu ⊢
  induction entries with
  | nil => exact absurd hu List.not_mem_nil
  | cons p rest ih =>
    simp only [lookup]
    split
    · rfl
    · next hne =>
      rcases List.mem_cons.mp hu with heq | hu
      · exact absurd heq.symm hne
      · exact ih hu

/-- The documents after some notices. -/
def told (es : List DocumentEvent) : Documents := es.foldl apply empty

theorem told_concat (es : List DocumentEvent) (e : DocumentEvent) :
    told (es ++ [e]) = (told es).apply e := by
  simp [told]

private theorem get?_foldl (es : List DocumentEvent) :
    (es.foldl apply ds).get? u =
      (es.filter fun e => e.uri = u).foldl (fun d e => e.next d) (ds.get? u) := by
  induction es generalizing ds with
  | nil => rfl
  | cons e es ih =>
    rw [List.foldl_cons, ih, get?_apply]
    by_cases hu : e.uri = u
    · rw [List.filter_cons_of_pos (by simpa using hu), List.foldl_cons, if_pos hu.symm]
    · rw [List.filter_cons_of_neg (by simpa using hu), if_neg (Ne.symm hu)]

/-- **A document is what the notices about it have made of it**, in the order in which they came. -/
theorem get?_told (es : List DocumentEvent) :
    (told es).get? u = (es.filter fun e => e.uri = u).foldl (fun d e => e.next d) none :=
  get?_foldl es

end Documents

end LintBridge
