import LintBridge.Channel.Lifecycle
import LintBridge.Proofs.Files.Scope

/-!
# A channel leaves no trace

Making a channel takes two steps, and undoing the first one when the second one fails gives the tree
as it was: the scope is a new directory, so it is empty, and its path name leads to it
(`Channel.bind_cases`). Removing a channel takes away what stands at the address, and then the scope
(`Channel.Undisturbed.remove_eq`); this works as long as the scope is still where it was and holds
nothing else.

Both rest on the address being written with the parts of its scope and one more name
(`Channel.IsIn`), so that it leads to that name in the scope, whichever links stand on the way.

## Main definitions

* `Channel.IsIn` — an address is that of a file in its scope.
* `Channel.withScope`, `Channel.holding` — a tree with a scope, and with a file in it.
* `Channel.Undisturbed` — the scope is where it was and holds at most a file at the address.

## Main results

* `Channel.bind_of_isSpare`, `Channel.bind_cases` — what comes of making a channel.
* `Channel.Undisturbed.remove_eq`, `Channel.Undisturbed.node?_remove` — what comes of removing it.
* `Channel.remove_holding` — it leaves the tree as it was before the channel was made.
-/

namespace LintBridge

namespace Channel

variable {t u : Files} {cwd place : Place} {address scope : Path} {name : Bytes} {node : Node}
  {follows : Bool}

/-! ### Addresses -/

/-- An address is that of a file in its scope: its parts are those of the scope and a name. -/
structure IsIn (address scope : Path) (name : Bytes) : Prop where
  parent : address.parent? = some scope
  extends_scope : address.Extends scope name []
  proper : name ≠ [Path.dot, Path.dot]
  fits : name.length ≤ Files.nameLimit
  admitted : Files.refusal? address = none

/-- Where the path name of a scope leads to a directory, the address leads to the file in it. -/
theorem IsIn.find (hin : IsIn address scope name) (hscope : u.find cwd scope false = .ok place)
    (there : u.node? place = some .directory)
    (unlinked : follows → ∀ target, u.node? (place ++ [name]) ≠ some (.link target)) :
    u.find cwd address follows = .ok (place ++ [name]) := by
  obtain ⟨between, hparts, hbetween⟩ := hin.extends_scope.parts
  rw [List.append_assoc] at hparts
  have before : ∀ n, u.node? place = some n → n = .directory := by
    intro n hn
    rw [there] at hn
    exact (Option.some.inj hn).symm
  obtain ⟨links, hfind⟩ := Files.find_append (Files.leadsAs_refl u) there before hscope hparts
    hin.extends_scope.isAbsolute hin.admitted follows
  rw [hfind, Files.walk_void_append hbetween]
  exact Files.walk_name hin.extends_scope.name hin.proper hin.fits unlinked

/-! ### Making a channel -/

/-- The tree with a scope. -/
def withScope (t : Files) (place : Place) : Files := t.put place .directory

/-- The tree with a scope that holds a file of a name, if any. -/
def holding (t : Files) (place : Place) (name : Bytes) : Option Node → Files
  | none => withScope t place
  | some node => (withScope t place).put (place ++ [name]) node

theorem append_ne_nil : place ++ [name] ≠ [] :=
  List.append_ne_nil_of_right_ne_nil place (List.cons_ne_nil name [])

theorem append_ne_self : place ++ [name] ≠ place := by
  simp

/-- A scope is a directory, holds nothing, and changes nothing else. -/
theorem node?_withScope (hplace : place ≠ []) {q : Place} :
    (withScope t place).node? q = if q = place then some .directory else t.node? q := by
  by_cases hq : q = place
  · rw [if_pos hq, hq]
    exact Files.node?_put_self hplace
  · rw [if_neg hq]
    exact Files.node?_put_of_ne hq

/-- The file in a scope changes nothing else. -/
theorem node?_holding (hplace : place ≠ []) (spare : t.IsSpare place) {node? : Option Node}
    {q : Place} : (holding t place name node?).node? q =
      if q = place then some .directory else if q = place ++ [name] then node? else t.node? q := by
  cases node? with
  | none =>
    rw [holding, node?_withScope hplace]
    split
    · rfl
    · split
      · next hq => exact spare q (hq ▸ List.prefix_append place [name])
      · rfl
  | some node =>
    rw [holding]
    by_cases hq : q = place ++ [name]
    · rw [hq, Files.node?_put_self append_ne_nil, if_neg append_ne_self, if_pos rfl]
    · rw [Files.node?_put_of_ne hq, node?_withScope hplace, if_neg hq]

theorem node?_scope (spare : t.IsSpare place) :
    (withScope t place).node? place = some .directory := by
  rw [node?_withScope spare.ne_nil, if_pos rfl]

/-- There is nothing in a new scope. -/
theorem node?_inside (spare : t.IsSpare place) :
    (withScope t place).node? (place ++ [name]) = none := by
  rw [node?_withScope spare.ne_nil, if_neg append_ne_self]
  exact spare _ (List.prefix_append place [name])

/-- Links and directories lead where they led without the scope. -/
theorem leadsAs_withScope (spare : t.IsSpare place) : (withScope t place).LeadsAs t := by
  refine Files.leadsAs_put fun n hn => ?_
  rw [spare.node?] at hn
  cases hn

theorem leadsAs_holding (spare : t.IsSpare place) (name : Bytes) (node? : Option Node) :
    (holding t place name node?).LeadsAs t := by
  cases node? with
  | none => exact leadsAs_withScope spare
  | some node =>
    refine Files.LeadsAs.trans (Files.leadsAs_put fun n hn => ?_) (leadsAs_withScope spare)
    rw [node?_inside spare] at hn
    cases hn

/-- The path name of a place where there is nothing leads to the scope that is made there. -/
theorem find_withScope (spare : t.IsSpare place) {path : Path}
    (h : t.find cwd path false = .ok place) :
    (withScope t place).find cwd path false = .ok place :=
  Files.find_of_leadsAs (leadsAs_withScope spare) (node?_scope spare) spare.eq_directory h false

/-- The scope is where it was made, and holds nothing but what stands at the address, which is not a
directory or link. -/
structure Undisturbed (u : Files) (cwd : Place) (scope : Path) (place : Place) (name : Bytes) :
    Prop where
  table : u.IsTable
  scope : u.find cwd scope false = .ok place
  there : u.node? place = some .directory
  plain : ∀ n, u.node? (place ++ [name]) = some n → n.IsPlain
  alone : ∀ q, place <+: q → q ≠ place → q ≠ place ++ [name] → u.node? q = none

/-- Without the file, the scope is where it was and is empty. -/
theorem Undisturbed.erase {name : Bytes} (h : Undisturbed u cwd scope place name) :
    (u.erase (place ++ [name])).find cwd scope false = .ok place ∧
      (u.erase (place ++ [name])).node? place = some .directory ∧
      ∀ q, place <+: q → q ≠ place → (u.erase (place ++ [name])).node? q = none := by
  have there : (u.erase (place ++ [name])).node? place = some .directory := by
    rw [Files.node?_erase h.table append_ne_nil, if_neg append_ne_self.symm]
    exact h.there
  refine ⟨?_, there, fun q hq hne => ?_⟩
  · refine Files.find_of_leadsAs (Files.leadsAs_erase h.table append_ne_nil h.plain) there
      (fun n hn => ?_) h.scope false
    rw [h.there] at hn
    exact (Option.some.inj hn).symm
  · rw [Files.node?_erase h.table append_ne_nil]
    split
    · rfl
    · next hother => exact h.alone q hq hne hother

/-- The file can be taken away, whether it is still there or not. -/
theorem Undisturbed.removeFile_eq {name : Bytes} (h : Undisturbed u cwd scope place name)
    (hin : IsIn address scope name) :
    removeFileIfPresent u cwd address = .ok (u.erase (place ++ [name])) := by
  have hfind := hin.find h.scope h.there fun follows => absurd follows Bool.false_ne_true
  simp only [removeFileIfPresent, Files.removeFile, hfind, Bind.bind, Except.bind]
  cases hnode : u.node? (place ++ [name]) with
  | none => exact congrArg Except.ok (Files.erase_eq_self hnode).symm
  | some n =>
    have plain := h.plain n hnode
    cases n with
    | directory => cases plain
    | _ => rfl

/-- **Removing a channel** takes the file away, and then the scope. -/
theorem Undisturbed.remove_eq {name : Bytes} (h : Undisturbed u cwd scope place name)
    (hin : IsIn address scope name) (hplace : place ≠ []) :
    remove u cwd address = (u.erase (place ++ [name])).erase place := by
  obtain ⟨hfind, there, below⟩ := h.erase
  have hdirectory : (u.erase (place ++ [name])).findDirectory cwd scope false = .ok place :=
    (Files.findDirectory_eq_find hin.extends_scope.scope).trans hfind
  simp only [remove, h.removeFile_eq hin, hin.parent, removeDirectoryIfPresent,
    Files.removeDirectory_eq hdirectory there hplace below]

/-- A channel is undisturbed while there is a plain file at its address, or nothing. -/
theorem undisturbed_holding (table : t.IsTable) (spare : t.IsSpare place)
    (hfind : t.find cwd scope false = .ok place) {node? : Option Node}
    (plain : ∀ n ∈ node?, n.IsPlain) :
    Undisturbed (holding t place name node?) cwd scope place name := by
  have there : (holding t place name node?).node? place = some .directory := by
    rw [node?_holding spare.ne_nil spare, if_pos rfl]
  have found := Files.find_of_leadsAs (leadsAs_holding spare name node?) there spare.eq_directory
    hfind false
  refine ⟨?_, found, there, ?_, ?_⟩
  · cases node? with
    | none => exact table.put
    | some node => exact table.put.put
  · intro n hn
    rw [node?_holding spare.ne_nil spare, if_neg append_ne_self, if_pos rfl] at hn
    exact plain n hn
  · intro q hq hplace hname
    rw [node?_holding spare.ne_nil spare, if_neg hplace, if_neg hname]
    exact spare q hq

/-- Without the file, the scope is as it was when it was new. -/
theorem erase_holding (spare : t.IsSpare place) (node? : Option Node) :
    (holding t place name node?).erase (place ++ [name]) = holding t place name none := by
  cases node? with
  | none => exact Files.erase_eq_self (node?_inside spare)
  | some node => exact Files.erase_put (node?_inside spare)

/-- **A channel leaves no trace**: removing it gives the tree as it was before the channel was
made. -/
theorem remove_holding (table : t.IsTable) (spare : t.IsSpare place)
    (hin : IsIn address scope name) (hfind : t.find cwd scope false = .ok place)
    {node? : Option Node} (plain : ∀ n ∈ node?, n.IsPlain) :
    remove (holding t place name node?) cwd address = t := by
  rw [(undisturbed_holding table spare hfind plain).remove_eq hin spare.ne_nil,
    erase_holding spare]
  exact Files.erase_put spare.node?

/-- The file can be removed while the channel lives. -/
theorem removeFile_holding (table : t.IsTable) (spare : t.IsSpare place)
    (hin : IsIn address scope name) (hfind : t.find cwd scope false = .ok place)
    {node? : Option Node} (plain : ∀ n ∈ node?, n.IsPlain) :
    removeFileIfPresent (holding t place name node?) cwd address =
      .ok (holding t place name none) := by
  rw [(undisturbed_holding table spare hfind plain).removeFile_eq hin, erase_holding spare]

/-- A regular file can take its place. -/
theorem write_holding (spare : t.IsSpare place) (hin : IsIn address scope name)
    (hfind : t.find cwd scope false = .ok place) (content : Bytes) :
    (holding t place name none).write cwd address content =
      .ok (holding t place name (some (.file content false))) := by
  have free : (withScope t place).node? (place ++ [name]) = none := node?_inside spare
  have ends : address.bytes.getLast? ≠ some Path.slash := by
    obtain ⟨between, hparts, -⟩ := hin.extends_scope.parts
    exact Path.getLast?_ne_slash _ hparts (Path.ne_nil_of_not_isVoid hin.extends_scope.name)
  have hplace : (withScope t place).findDirectory cwd address true = .ok (place ++ [name]) := by
    rw [Files.findDirectory_eq_find ends]
    refine hin.find (find_withScope spare hfind) (node?_scope spare) fun _ target => ?_
    rw [free]
    nofun
  simp [holding, Files.write, Files.findForWriting, hplace, Bind.bind, Except.bind, ends, free,
    Files.change]

end Channel

end LintBridge
