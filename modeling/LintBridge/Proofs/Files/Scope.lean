import Mathlib.Data.List.Nodup
import LintBridge.Proofs.Files.Tree
import LintBridge.Proofs.Path.Parent

/-!
# A new directory in a tree

A table is a tree when every place has one entry and everything stands in a directory
(`Files.IsTree`). Where there is nothing in a tree, there is nothing below either.

Once a path name leads to a place, every longer one goes on from there: the parts that are left are
followed from the place, in any tree that has the directories and links of the first one, and a
directory at the place (`Files.find_append`). So a file that is made in a new directory is found
there.

Putting a node where there was none and taking it away again gives the tree as it was before, not
only one in which the same stands everywhere (`Files.erase_put`).

## Main definitions

* `Files.IsTree` — a table is a tree.
* `Files.IsSpare` — there is nothing at a place and nothing below it.

## Main results

* `Files.IsTree.isSpare` — nothing stands below nothing.
* `Files.find_append` — a longer path name goes on from where a shorter one leads to.
* `Files.erase_put`, `Files.node?_erase` — what taking away means.
-/

namespace LintBridge

namespace Files

variable {t u : Files} {place p q cwd here : Place} {node : Node} {path scope : Path}
  {parts rest : List Bytes} {follows : Bool} {links : Nat}

/-! ### The table -/

/-- Every place has one entry. -/
def IsTable (t : Files) : Prop := (t.entries.map Prod.fst).Nodup

theorem lookup_eq_none_iff {entries : List (Place × Node)} :
    lookup p entries = none ↔ ∀ e ∈ entries, e.1 ≠ p := by
  induction entries with
  | nil => simp [lookup]
  | cons e entries ih =>
    rw [lookup]
    by_cases heq : e.1 = p
    · simp [heq]
    · simp [heq, ih]

theorem node?_eq_none_iff : t.node? p = none ↔ p ≠ [] ∧ ∀ e ∈ t.entries, e.1 ≠ p := by
  rw [node?]
  by_cases hp : p = []
  · simp [hp]
  · rw [if_neg hp, lookup_eq_none_iff, and_iff_right hp]

/-- There is nothing at a place and nothing below it. -/
def IsSpare (t : Files) (place : Place) : Prop := ∀ q, place <+: q → t.node? q = none

theorem IsSpare.node? (spare : t.IsSpare place) : t.node? place = none :=
  spare place (List.prefix_refl place)

/-- A spare place has nothing in the way of a new directory. -/
theorem IsSpare.eq_directory (spare : t.IsSpare place) (n : Node) (h : t.node? place = some n) :
    n = .directory := by
  rw [spare.node?] at h
  cases h

theorem IsSpare.ne_nil (spare : t.IsSpare place) : place ≠ [] := by
  rintro rfl
  exact absurd (spare [] (List.prefix_refl [])) nofun

/-- A directory has nothing in it if nothing stands below it. -/
theorem hasChildren_eq_false (below : ∀ q, place <+: q → q ≠ place → t.node? q = none) :
    t.hasChildren place = false := by
  rw [hasChildren, List.any_eq_false]
  rintro ⟨q, n⟩ he hbelow
  simp only [Bool.and_eq_true, List.isPrefixOf_iff_prefix, bne_iff_ne] at hbelow
  exact (node?_eq_none_iff.mp (below q hbelow.1 hbelow.2)).2 _ he rfl

/-! ### Putting and taking away -/

theorem putIn_eq_append {entries : List (Place × Node)} (apart : ∀ e ∈ entries, e.1 ≠ place) :
    putIn place node entries = entries ++ [(place, node)] := by
  induction entries with
  | nil => rfl
  | cons e entries ih =>
    rw [putIn, if_neg (apart e List.mem_cons_self),
      ih fun e' he' => apart e' (List.mem_cons_of_mem _ he')]
    rfl

theorem eraseIn_append {entries : List (Place × Node)} (apart : ∀ e ∈ entries, e.1 ≠ place)
    (tail : List (Place × Node)) :
    eraseIn place (entries ++ tail) = entries ++ eraseIn place tail := by
  induction entries with
  | nil => rfl
  | cons e entries ih =>
    rw [List.cons_append, eraseIn, if_neg (apart e List.mem_cons_self),
      ih fun e' he' => apart e' (List.mem_cons_of_mem _ he')]
    rfl

/-- **Taking away what was put where there was nothing** gives the tree as it was. -/
theorem erase_put (none : t.node? place = none) : (t.put place node).erase place = t := by
  have apart := (node?_eq_none_iff.mp none).2
  rw [put, putIn_eq_append apart, erase, eraseIn_append apart, eraseIn, if_pos rfl,
    List.append_nil]

/-- Taking nothing away changes nothing. -/
theorem erase_eq_self (none : t.node? place = none) : t.erase place = t := by
  have happend := eraseIn_append (node?_eq_none_iff.mp none).2 []
  rw [List.append_nil, eraseIn, List.append_nil] at happend
  rw [erase, happend]

theorem IsTable.put (table : t.IsTable) : (t.put place node).IsTable := by
  obtain ⟨entries⟩ := t
  simp only [IsTable, Files.put] at table ⊢
  by_cases hplace : lookup place entries = none
  · rw [lookup_eq_none_iff] at hplace
    rw [putIn_eq_append hplace, List.map_append, List.nodup_append]
    refine ⟨table, List.nodup_singleton _, ?_⟩
    rintro p hp p' hp' rfl
    obtain ⟨e, he, rfl⟩ := List.mem_map.mp hp
    exact hplace e he (List.mem_singleton.mp hp')
  · have hkeys : (putIn place node entries).map Prod.fst = entries.map Prod.fst := by
      clear table
      induction entries with
      | nil => exact absurd rfl hplace
      | cons e entries ih =>
        rw [putIn]
        split
        · next heq => simp [heq]
        · next hne =>
          rw [lookup, if_neg hne] at hplace
          simp [ih hplace]
    rwa [hkeys]

theorem eraseIn_sublist (place : Place) (entries : List (Place × Node)) :
    (eraseIn place entries).Sublist entries := by
  induction entries with
  | nil => exact List.Sublist.slnil
  | cons e entries ih =>
    rw [eraseIn]
    split
    · exact List.sublist_cons_self e entries
    · exact ih.cons_cons e

theorem IsTable.erase (table : t.IsTable) : (t.erase place).IsTable :=
  List.Nodup.sublist ((eraseIn_sublist place t.entries).map Prod.fst) table

/-- **What stands in a tree from which something was taken away.** -/
theorem node?_erase (table : t.IsTable) (hplace : place ≠ []) :
    (t.erase place).node? p = if p = place then none else t.node? p := by
  have hlookup : lookup p (eraseIn place t.entries) =
      if p = place then none else lookup p t.entries := by
    obtain ⟨entries⟩ := t
    simp only [IsTable] at table ⊢
    induction entries with
    | nil => simp [eraseIn, lookup]
    | cons e entries ih =>
      rw [List.map_cons, List.nodup_cons] at table
      rw [eraseIn]
      split
      · next heq =>
        split
        · next hp =>
          rw [lookup_eq_none_iff]
          rintro e' he' heq'
          exact table.1 (List.mem_map.mpr ⟨e', he', by rw [heq', hp, ← heq]⟩)
        · next hp => rw [lookup, if_neg (heq ▸ Ne.symm hp)]
      · next hne =>
        rw [lookup, lookup, ih table.2]
        by_cases hp : p = place
        · have hne' : ¬ e.1 = p := hp ▸ hne
          simp only [if_pos hp, if_neg hne']
        · simp only [if_neg hp]
  rw [node?, node?, erase, hlookup]
  by_cases hp : p = []
  · rw [if_pos hp, if_neg (hp ▸ Ne.symm hplace), if_pos hp]
  · rw [if_neg hp, if_neg hp]

/-! ### Path names -/

/-- A tree has the directories and links of another one. -/
def LeadsAs (u t : Files) : Prop :=
  ∀ q n, t.node? q = some n → ¬ n.IsPlain → u.node? q = some n

theorem leadsAs_refl (t : Files) : t.LeadsAs t := fun _ _ h _ => h

/-- Putting something where there was nothing, or something that leads nowhere, keeps the
directories and links. -/
theorem leadsAs_put (before : ∀ n, t.node? place = some n → n.IsPlain) :
    (t.put place node).LeadsAs t := by
  intro q n hq hn
  rw [node?_put_of_ne, hq]
  rintro rfl
  exact hn (before n hq)

/-- So does taking away something that leads nowhere. -/
theorem leadsAs_erase (table : t.IsTable) (hplace : place ≠ [])
    (before : ∀ n, t.node? place = some n → n.IsPlain) : (t.erase place).LeadsAs t := by
  intro q n hq hn
  rw [node?_erase table hplace, if_neg, hq]
  rintro rfl
  exact hn (before n hq)

theorem LeadsAs.trans {v : Files} (first : v.LeadsAs u) (second : u.LeadsAs t) : v.LeadsAs t :=
  fun q n hq hn => first q n (second q n hq hn) hn

/-- A walk that leads to a place goes on from there with the parts that are left, if the same holds
of going on from the links that it passes. -/
theorem walkBy_append {jump jump' : Place → List Bytes → Except Errno Place}
    (leads : u.LeadsAs t) (there : u.node? place = some .directory)
    (before : ∀ n, t.node? place = some n → n = .directory)
    (hjump : ∀ here parts, jump here parts = .ok place →
      ∃ links, jump' here (parts ++ rest) = u.walk follows links place rest)
    (hlast : ∃ links, u.walkBy follows jump' place rest = u.walk follows links place rest)
    (h : t.walkBy false jump here parts = .ok place) :
    ∃ links, u.walkBy follows jump' here (parts ++ rest) = u.walk follows links place rest := by
  fun_induction walkBy t false jump here parts with
  | case1 here =>
    obtain rfl := Except.ok.inj h
    exact hlast
  | case2 here part parts hpart ih =>
    rw [List.cons_append, walkBy, if_pos hpart]
    exact ih h
  | case3 here parts hpart ih =>
    rw [List.cons_append, walkBy, if_neg hpart, if_pos rfl]
    exact ih h
  | case4 => cases h
  | case5 here part hpart hup hlen hnode =>
    -- The walk ends at the place, where there was nothing and is a directory now.
    rw [List.singleton_append, walkBy, if_neg hpart, if_neg hup, if_neg hlen, Except.ok.inj h,
      there]
    exact hlast
  | case6 => cases h
  | case7 here part parts hpart hup hlen hnode ih =>
    rw [List.cons_append, walkBy, if_neg hpart, if_neg hup, if_neg hlen, leads _ _ hnode id]
    exact ih h
  | case8 here part parts hpart hup hlen target hnode hends =>
    obtain rfl := Except.ok.inj h
    cases before _ hnode
  | case9 here part parts hpart hup hlen target hnode hgoes =>
    have hparts : parts ≠ [] := fun hnil => hgoes ⟨hnil, Bool.false_ne_true⟩
    rw [List.cons_append, walkBy, if_neg hpart, if_neg hup, if_neg hlen, leads _ _ hnode id]
    dsimp only
    rw [if_neg fun hstop => hparts (List.append_eq_nil_iff.mp hstop.1).1, ← List.append_assoc]
    exact hjump _ _ h
  | case10 here part hpart hup hlen n hdir hlink hnode =>
    obtain rfl := Except.ok.inj h
    exact absurd (before _ hnode) hdir
  | case11 => cases h

theorem walk_append (leads : u.LeadsAs t) (there : u.node? place = some .directory)
    (before : ∀ n, t.node? place = some n → n = .directory)
    (h : t.walk false links here parts = .ok place) :
    ∃ links', u.walk follows links here (parts ++ rest) = u.walk follows links' place rest := by
  induction links generalizing here parts with
  | zero =>
    rw [walk] at h ⊢
    exact walkBy_append leads there before (fun _ _ stop => by cases stop) ⟨0, by rw [walk]⟩ h
  | succ links ih =>
    rw [walk] at h ⊢
    exact walkBy_append leads there before (fun _ _ => ih) ⟨links + 1, by rw [walk]⟩ h

/-- **A longer path name goes on from where a shorter one leads to.** -/
theorem find_append (leads : u.LeadsAs t) (there : u.node? place = some .directory)
    (before : ∀ n, t.node? place = some n → n = .directory)
    (h : t.find cwd scope false = .ok place) (hparts : path.parts = scope.parts ++ rest)
    (habsolute : path.isAbsolute = scope.isAbsolute) (admitted : refusal? path = none)
    (follows : Bool) : ∃ links, u.find cwd path follows = u.walk follows links place rest := by
  unfold find at h ⊢
  split at h
  · cases h
  · rw [admitted, hparts, habsolute]
    exact walk_append leads there before h

theorem exists_walkBy (t : Files) (follows : Bool) (links : Nat) :
    ∃ jump, t.walk follows links = t.walkBy follows jump := by
  cases links <;> exact ⟨_, rfl⟩

theorem refusal?_of_find (h : t.find cwd path follows = .ok place) : refusal? path = none := by
  unfold find at h
  split at h
  · cases h
  · next admitted => exact admitted

/-- A path name leads to a directory wherever the directories and links are the same. -/
theorem find_of_leadsAs (leads : u.LeadsAs t) (there : u.node? place = some .directory)
    (before : ∀ n, t.node? place = some n → n = .directory)
    (h : t.find cwd path false = .ok place) (follows : Bool) :
    u.find cwd path follows = .ok place := by
  obtain ⟨links, hfind⟩ := find_append leads there before h (List.append_nil path.parts).symm rfl
    (refusal?_of_find h) follows
  obtain ⟨jump, hwalk⟩ := exists_walkBy u follows links
  rw [hfind, hwalk, walkBy]

/-- Parts that stand for nothing lead nowhere. -/
theorem walk_void_append {voids : List Bytes} (hvoids : ∀ v ∈ voids, Path.isVoid v) :
    t.walk follows links here (voids ++ rest) = t.walk follows links here rest := by
  obtain ⟨jump, hwalk⟩ := exists_walkBy t follows links
  rw [hwalk]
  induction voids with
  | nil => rfl
  | cons v voids ih =>
    have hv : v = [] ∨ v = [Path.dot] := by
      simpa [Path.isVoid] using hvoids v List.mem_cons_self
    rw [List.cons_append, walkBy, if_pos hv]
    exact ih fun v' hv' => hvoids v' (List.mem_cons_of_mem _ hv')

theorem not_isVoid_iff {part : Bytes} : ¬ Path.isVoid part ↔ ¬ (part = [] ∨ part = [Path.dot]) := by
  simp [Path.isVoid]

/-- A name leads to its place in a directory, unless a link stands there that is followed. -/
theorem walk_name {name : Bytes} (named : ¬ Path.isVoid name) (proper : name ≠ [Path.dot, Path.dot])
    (fits : name.length ≤ nameLimit)
    (unlinked : follows → ∀ target, t.node? (here ++ [name]) ≠ some (.link target)) :
    t.walk follows links here [name] = .ok (here ++ [name]) := by
  obtain ⟨jump, hwalk⟩ := exists_walkBy t follows links
  rw [hwalk, walkBy, if_neg (not_isVoid_iff.mp named), if_neg proper, if_neg (Nat.not_lt.mpr fits)]
  split
  · simp
  · rw [walkBy]
  · next target hnode =>
    refine if_pos ⟨rfl, fun hfollows => unlinked hfollows target hnode⟩
  · simp

/-- A directory with nothing in it can be removed. -/
theorem removeDirectory_eq (hfind : t.findDirectory cwd path false = .ok place)
    (there : t.node? place = some .directory) (hplace : place ≠ [])
    (below : ∀ q, place <+: q → q ≠ place → t.node? q = none) :
    t.removeDirectory cwd path = .ok (t.erase place) := by
  have hstop : ¬ (place = [] ∨ t.hasChildren place = true) := by
    rw [hasChildren_eq_false below]
    simp [hplace]
  simp only [removeDirectory, hfind, bind, Except.bind, there, if_neg hstop]

end Files

end LintBridge
