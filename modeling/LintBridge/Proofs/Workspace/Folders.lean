import LintBridge.Proofs.Hub.Tidings
import LintBridge.Proofs.Path.Components
import LintBridge.Server.Session

/-!
# The folder list of a workspace

The editor names the folders of its workspace when it connects, and tells later which ones were
added and removed. Two folders count as one when they are equal as paths, however they are written.

A change of folders keeps to what a reader of the list expects (`Workspace.Updates`): the folders
that stay come first and keep their order, the new ones follow in the order in which the editor has
listed them, and as a set the list is what it was, less what was removed, with what was added. It
brings in no folder twice, so two equal folders can only come from the list with which the editor
has connected. That list is taken as it is. Whether the stored list has equal folders is therefore
a matter of those of the first ones that were never removed (`Hub.Run.folders_updated`).

## Main definitions

* `Workspace.Distinct` — no two folders of a list are equal as paths.
* `Workspace.fresh` — the folders of a list that are new.
* `Workspace.Updates` — what a change of folders comes to.
* `Hub.removals` — the folders that were removed in a run.

## Main results

* `Workspace.updates_changeFolders` — what a change of folders comes to.
* `Hub.Run.folders_updated` — what the folder list is after any changes.
-/

namespace LintBridge

namespace Workspace

variable {folders before present added removed after l l' : List Path} {f p q : Path}

/-! ### Folders up to equality as paths -/

/-- No two folders of the list are equal as paths. -/
def Distinct (folders : List Path) : Prop := folders.Pairwise fun p q => ¬ p.sameAs q

instance (folders : List Path) : Decidable (Distinct folders) :=
  inferInstanceAs (Decidable (folders.Pairwise fun p q => ¬ p.sameAs q))

theorem hasFolder_iff : hasFolder folders p ↔ ∃ f ∈ folders, p.sameAs f := by
  simp [hasFolder]

theorem hasFolder_append : hasFolder (l ++ l') p ↔ hasFolder l p ∨ hasFolder l' p := by
  simp [hasFolder]

/-- Whether a list has a folder does not depend on how the folder is written. -/
theorem hasFolder_congr (same : p.sameAs q) : hasFolder folders p = hasFolder folders q := by
  have hsame : p.sameAs = q.sameAs := by
    funext f
    rw [Path.sameAs, Path.sameAs, Path.sameAs_iff.mp same]
  rw [hasFolder, hasFolder, hsame]

/-- A list in two parts has no equal folders if neither part has and no folder of the second part
is in the first. -/
theorem distinct_append :
    Distinct (l ++ l') ↔ Distinct l ∧ Distinct l' ∧ ∀ g ∈ l', ¬ hasFolder l g := by
  simp only [Distinct, List.pairwise_append, hasFolder_iff, not_exists, not_and]
  refine and_congr_right fun _ => and_congr_right fun _ => ?_
  constructor
  · intro apart g hg f hf same
    exact apart f hf g hg (Path.sameAs_iff.mpr (Path.sameAs_iff.mp same).symm)
  · intro apart f hf g hg same
    exact apart g hg f hf (Path.sameAs_iff.mpr (Path.sameAs_iff.mp same).symm)

/-! ### Adding folders -/

/-- The folders of a list that are not among those present, each once, as it is written first. -/
def fresh (present : List Path) : List Path → List Path
  | [] => []
  | f :: fs => if hasFolder present f then fresh present fs else f :: fresh (present ++ [f]) fs

/-- Adding folders one after another puts the new ones at the end. -/
theorem foldl_addFolder (added present : List Path) :
    added.foldl addFolder present = present ++ fresh present added := by
  induction added generalizing present with
  | nil => exact (List.append_nil present).symm
  | cons f fs ih =>
    rw [List.foldl_cons, ih, addFolder, fresh]
    split
    · rfl
    · rw [List.append_assoc, List.singleton_append]

theorem fresh_sublist (present added : List Path) : (fresh present added).Sublist added := by
  induction added generalizing present with
  | nil => exact List.Sublist.slnil
  | cons f fs ih =>
    rw [fresh]
    split
    · exact (ih present).cons f
    · exact (ih (present ++ [f])).cons_cons f

/-- After folders were added a list has them and those that it had. -/
theorem hasFolder_append_fresh (present added : List Path) :
    hasFolder (present ++ fresh present added) p ↔ hasFolder present p ∨ hasFolder added p := by
  induction added generalizing present with
  | nil => simp [fresh, hasFolder]
  | cons f fs ih =>
    have hcons : hasFolder (f :: fs) p ↔ p.sameAs f ∨ hasFolder fs p := by simp [hasFolder]
    rw [fresh, hcons]
    split
    · next hpresent =>
      rw [ih]
      constructor
      · exact Or.imp_right Or.inr
      · rintro (hp | same | hp)
        · exact .inl hp
        · exact .inl (hasFolder_congr same ▸ hpresent)
        · exact .inr hp
    · have hone : hasFolder [f] p ↔ p.sameAs f := by simp [hasFolder]
      rw [List.append_cons, ih, hasFolder_append, hone, or_assoc]

/-- The new folders are different from each other, and none of them was present. -/
theorem fresh_apart (present added : List Path) :
    Distinct (fresh present added) ∧ ∀ g ∈ fresh present added, ¬ hasFolder present g := by
  induction added generalizing present with
  | nil => exact ⟨List.Pairwise.nil, fun g hg => absurd hg List.not_mem_nil⟩
  | cons f fs ih =>
    rw [fresh]
    split
    · exact ih present
    · next hnew =>
      obtain ⟨hdistinct, hapart⟩ := ih (present ++ [f])
      have hrest : ∀ g ∈ fresh (present ++ [f]) fs, ¬ hasFolder present g ∧ ¬ hasFolder [f] g :=
        fun g hg => not_or.mp fun hor => hapart g hg (hasFolder_append.mpr hor)
      constructor
      · rw [← List.singleton_append, distinct_append]
        exact ⟨List.pairwise_singleton _ f, hdistinct, fun g hg => (hrest g hg).2⟩
      · intro g hg
        rcases List.mem_cons.mp hg with rfl | hg
        · exact hnew
        · exact (hrest g hg).1

/-! ### Changing folders -/

/-- The folders that some addresses name. -/
def foldersOf (uris : List Uri) : List Path := uris.filterMap Uri.filePath?

/-- The folders of a list that were not removed. -/
def staying (removed folders : List Path) : List Path :=
  folders.filter fun f => !hasFolder removed f

/-- What a change of folders comes to. -/
structure Updates (before added removed after : List Path) : Prop where
  /-- The folders that stay come first and keep their order. Those that are new follow, each once,
  in the order in which they were listed. -/
  order : ∃ new, after = staying removed before ++ new ∧ new.Sublist added ∧ Distinct new ∧
    ∀ f ∈ new, ¬ hasFolder (staying removed before) f
  /-- As a set, the list is what it was, less what was removed, with what was added. -/
  members : ∀ p, hasFolder after p ↔ hasFolder before p ∧ ¬ hasFolder removed p ∨ hasFolder added p

theorem mem_staying : f ∈ staying removed before ↔ f ∈ before ∧ ¬ hasFolder removed f := by
  simp [staying]

theorem hasFolder_staying :
    hasFolder (staying removed before) p ↔ hasFolder before p ∧ ¬ hasFolder removed p := by
  rw [hasFolder_iff]
  simp only [mem_staying]
  constructor
  · rintro ⟨f, ⟨hf, hstays⟩, same⟩
    exact ⟨hasFolder_iff.mpr ⟨f, hf, same⟩, hasFolder_congr same ▸ hstays⟩
  · rintro ⟨hp, hstays⟩
    obtain ⟨f, hf, same⟩ := hasFolder_iff.mp hp
    exact ⟨f, ⟨hf, hasFolder_congr same ▸ hstays⟩, same⟩

theorem changeFolders_eq (added removed : List Uri) : changeFolders before added removed =
    staying (foldersOf removed) before ++
      fresh (staying (foldersOf removed) before) (foldersOf added) :=
  foldl_addFolder _ _

/-- **A change of folders** leaves those that stay in their order and puts the new ones behind
them. -/
theorem updates_changeFolders (before : List Path) (added removed : List Uri) :
    Updates before (foldersOf added) (foldersOf removed) (changeFolders before added removed) where
  order := by
    obtain ⟨hdistinct, hapart⟩ :=
      fresh_apart (staying (foldersOf removed) before) (foldersOf added)
    exact ⟨_, changeFolders_eq added removed, fresh_sublist _ _, hdistinct, hapart⟩
  members p := by rw [changeFolders_eq, hasFolder_append_fresh, hasFolder_staying]

theorem staying_append : staying removed (l ++ l') = staying removed l ++ staying removed l' :=
  List.filter_append l l'

theorem staying_staying (again : List Path) :
    staying again (staying removed before) = staying (removed ++ again) before := by
  simp only [staying, List.filter_filter, hasFolder, List.any_append, Bool.not_or, Bool.and_comm]

end Workspace

namespace Hub

open Workspace

variable {start h : Hub} {ms : List Moment} {m : Moment}

/-! ### Folders in a run -/

/-- The folders that a move removes. -/
def Moment.removed (m : Moment) : List Path :=
  match m.move with
  | .event (.folders _ removed) => foldersOf removed
  | _ => []

/-- The folders that were removed in a run. -/
def removals (ms : List Moment) : List Path := ms.flatMap Moment.removed

/-- Only the editor changes the folders. -/
theorem Moment.folders (legal : m.IsLegal) :
    m.after.folders = m.before.folders ∧ m.removed = [] ∧
        (∀ added removed, m.move ≠ .event (.folders added removed)) ∨
      ∃ added removed, m.move = .event (.folders added removed) ∧ m.removed = foldersOf removed ∧
        m.after.folders = changeFolders m.before.folders added removed := by
  have htidings := Tidings.of_isLegal legal
  obtain ⟨h, move, outs, h'⟩ := m
  dsimp only at htidings ⊢
  cases htidings with
  | told e documents folders => exact .inl ⟨folders, rfl, nofun⟩
  | rearranged added removed => exact .inr ⟨added, removed, rfl, rfl, rfl⟩
  | fell | lapsed => exact .inl ⟨rfl, rfl, nofun⟩
  | fired k known due rest => exact .inl ⟨rest.folders, rfl, nofun⟩
  | quiet quiet rest =>
    refine .inl ⟨rest.folders, ?_, ?_⟩
    · cases move with
      | call => rfl
      | event e => cases e <;> first | rfl | cases quiet
    · rintro added removed rfl
      cases quiet

/-- The stored folders are those of the first ones that were never removed, and behind them others
that are different from each other and from these. -/
theorem Run.folders_split (run : Run start ms h) :
    ∃ rest, h.folders = staying (removals ms) start.folders ++ rest ∧ Distinct rest ∧
      ∀ g ∈ rest, ¬ hasFolder (staying (removals ms) start.folders) g := by
  induction run with
  | stay =>
    have hall : staying (removals []) start.folders = start.folders := by
      simp [staying, removals, hasFolder]
    exact ⟨[], by rw [hall, List.append_nil], List.Pairwise.nil, fun g hg =>
      absurd hg List.not_mem_nil⟩
  | next m past legal ih =>
    rename_i ms
    obtain ⟨rest, heq, hdistinct, hapart⟩ := ih
    have hremovals : removals (ms ++ [m]) = removals ms ++ m.removed := by simp [removals]
    rcases Moment.folders legal with ⟨same, none, -⟩ | ⟨added, removed, -, hremoved, hchange⟩
    · rw [hremovals, none, List.append_nil, same]
      exact ⟨rest, heq, hdistinct, hapart⟩
    · rw [hremovals, hremoved, ← staying_staying]
      set first := staying (removals ms) start.folders
      set kept := staying (foldersOf removed) rest
      obtain ⟨hnew, hnewApart⟩ := fresh_apart (staying (foldersOf removed) first ++ kept)
        (foldersOf added)
      have hkept : ∀ g ∈ kept, ¬ hasFolder (staying (foldersOf removed) first) g := fun g hg hf =>
        hapart g ((mem_staying.mp hg).1) (hasFolder_staying.mp hf).1
      refine ⟨kept ++ fresh (staying (foldersOf removed) first ++ kept) (foldersOf added), ?_, ?_,
        ?_⟩
      · rw [hchange, changeFolders_eq, heq, staying_append, List.append_assoc]
      · rw [distinct_append]
        refine ⟨List.Pairwise.filter _ hdistinct, hnew, fun g hg hk => ?_⟩
        exact hnewApart g hg (hasFolder_append.mpr (.inr hk))
      · intro g hg
        rcases List.mem_append.mp hg with hg | hg
        · exact hkept g hg
        · exact fun hf => hnewApart g hg (hasFolder_append.mpr (.inl hf))

theorem folders_connect (s : Session) (c : Connection) :
    (s.connect c).rehearsal.hub.folders = initialFolders c.folders c.root := by
  unfold Session.connect
  cases c.options <;> rfl

/-- **The folder list after any changes.** When an editor has connected and then anything happens:

1. every change of folders leaves those that stay in their order, puts the new ones behind them in
   the order in which the editor has listed them, and is right as a set;
2. nothing else changes the folders;
3. no two stored folders are equal as paths if and only if this holds of the folders with which the
   editor has connected and which were not removed since;
4. so if the editor has connected with different folders, the stored ones are always different. -/
theorem Run.folders_updated (s : Session) (c : Connection)
    (run : Run (s.connect c).rehearsal.hub ms h) :
    (∀ m ∈ ms, ∀ added removed, m.move = .event (.folders added removed) →
      Updates m.before.folders (foldersOf added) (foldersOf removed) m.after.folders) ∧
    (∀ m ∈ ms, (∀ added removed, m.move ≠ .event (.folders added removed)) →
      m.after.folders = m.before.folders) ∧
    (Distinct h.folders ↔
      Distinct (staying (removals ms) (initialFolders c.folders c.root))) ∧
    (Distinct (initialFolders c.folders c.root) → Distinct h.folders) := by
  have legal : ∀ m ∈ ms, m.IsLegal := fun m hm => by
    obtain ⟨past, future, rfl⟩ := List.append_of_mem hm
    exact run.split.2.1
  have hiff : Distinct h.folders ↔
      Distinct (staying (removals ms) (initialFolders c.folders c.root)) := by
    obtain ⟨rest, heq, hdistinct, hapart⟩ := run.folders_split
    rw [heq, folders_connect, distinct_append]
    rw [folders_connect] at hapart
    exact ⟨fun h => h.1, fun h => ⟨h, hdistinct, hapart⟩⟩
  refine ⟨fun m hm added removed move => ?_, fun m hm other => ?_, hiff, fun hfirst => ?_⟩
  · rcases Moment.folders (legal m hm) with ⟨-, -, other⟩ | ⟨added', removed', move', -, hchange⟩
    · exact absurd move (other added removed)
    · obtain ⟨rfl, rfl⟩ : added = added' ∧ removed = removed' := by
        simpa using move.symm.trans move'
      exact hchange ▸ updates_changeFolders m.before.folders added removed
  · rcases Moment.folders (legal m hm) with ⟨same, -, -⟩ | ⟨added, removed, move, -, -⟩
    · exact same
    · exact absurd move (other added removed)
  · exact hiff.mpr (List.Pairwise.filter _ hfirst)

/-! ### Two connections -/

/-- The address of a folder, by its segments. A last segment that is empty makes a slash at the
end. -/
def folder (segments : List (List Char)) : Uri :=
  ⟨"file", some [], none, .segments segments, none, none⟩

/-- A session in the beginning. -/
def newSession : Session := .start (.start .inMemory (.ofFiles ⟨[]⟩ 0) [] [] ⟨[], [], 0, 0, 0⟩)

/-- An editor connects with some folders. -/
def connection (folders : List Uri) : Connection := ⟨some folders, none, none⟩

/-- The editor connects with `/a` and `/b`. Then it removes `/a`, and adds `/c` and, once more and
with a slash at the end, `/b`. -/
theorem rearranging_updated : ∃ m,
    Run (newSession.connect (connection [folder [['a']], folder [['b']]])).rehearsal.hub [m]
      m.after ∧
    m.move = .event (.folders [folder [['c']], folder [['b'], []]] [folder [['a']]]) ∧
    Updates m.before.folders [⟨[47, 99]⟩, ⟨[47, 98, 47]⟩] [⟨[47, 97]⟩] m.after.folders ∧
    m.after.folders = [⟨[47, 98]⟩, ⟨[47, 99]⟩] ∧ Distinct m.after.folders := by
  have hinitial : initialFolders (some [folder [['a']], folder [['b']]]) none =
      [⟨[47, 97]⟩, ⟨[47, 98]⟩] := by decide
  have hadded : foldersOf [folder [['c']], folder [['b'], []]] =
      [⟨[47, 99]⟩, ⟨[47, 98, 47]⟩] := by decide
  have hremoved : foldersOf [folder [['a']]] = [⟨[47, 97]⟩] := by decide
  have hchanged : changeFolders [⟨[47, 97]⟩, ⟨[47, 98]⟩]
      [folder [['c']], folder [['b'], []]] [folder [['a']]] = [⟨[47, 98]⟩, ⟨[47, 99]⟩] := by decide
  have hdistinct : Distinct [⟨[47, 97]⟩, ⟨[47, 98]⟩] := by decide
  have hstart := (folders_connect newSession
    (connection [folder [['a']], folder [['b']]])).trans hinitial
  obtain ⟨step, legal⟩ : ∃ step, (newSession.connect
      (connection [folder [['a']], folder [['b']]])).rehearsal.hub.move?
        (.event (.folders [folder [['c']], folder [['b'], []]] [folder [['a']]])) = some step :=
    ⟨_, rfl⟩
  have run : Run _ ([] ++ [_]) _ := .next ⟨_, _, step.2, step.1⟩ .stay legal
  obtain ⟨hupdates, -, -, different⟩ := run.folders_updated newSession
    (connection [folder [['a']], folder [['b']]])
  have hupdate := hupdates _ (List.mem_singleton_self _) _ _ rfl
  have hafter : step.1.folders = [⟨[47, 98]⟩, ⟨[47, 99]⟩] := by
    obtain rfl := Option.some.inj legal
    exact (congrArg (changeFolders · _ _) hstart).trans hchanged
  rw [hadded, hremoved] at hupdate
  refine ⟨_, run, rfl, hupdate, hafter, different ?_⟩
  exact hinitial.symm ▸ hdistinct

/-- An editor connects with one folder, written in two ways: the stored list has two folders that
are equal as paths. -/
theorem connecting_repeats : ∃ h,
    Run (newSession.connect (connection [folder [['a']], folder [['a'], []]])).rehearsal.hub [] h ∧
    h.folders = [⟨[47, 97]⟩, ⟨[47, 97, 47]⟩] ∧ ¬ Distinct h.folders := by
  have hinitial : initialFolders (some [folder [['a']], folder [['a'], []]]) none =
      [⟨[47, 97]⟩, ⟨[47, 97, 47]⟩] := by decide
  have hequal : ¬ Distinct [⟨[47, 97]⟩, ⟨[47, 97, 47]⟩] := by decide
  have hfolders := (folders_connect newSession
    (connection [folder [['a']], folder [['a'], []]])).trans hinitial
  exact ⟨_, .stay, hfolders, hfolders ▸ hequal⟩

end Hub

end LintBridge
