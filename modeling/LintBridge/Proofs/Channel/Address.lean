import LintBridge.Channel.Address
import LintBridge.Proofs.Json.Numeral
import LintBridge.Proofs.Path.Components

/-!
# Addresses of channels never collide

The name of a scope is divided by dashes. Only the last part, the version of the document, can have
a dash of its own, so the parts before it can be read back, and the running number among them is
different for each address (`Channel.scopeName_inj`). The clock is of no importance: it may stand
still or go backwards.

The file name of a channel is one normal component with the extension of the language
(`Channel.IsTargetName`). A name that is of this form already is kept, so it makes no difference to
form the name of a channel twice.

## Main definitions

* `Channel.Demand` — what an address is made for.
* `Channel.addressesFrom` — the addresses that are made one after another.
* `Channel.Apart` — two addresses have different scopes.
* `Channel.IsTargetName` — a file name with the extension of the language.

## Main results

* `Channel.parent?_address`, `Channel.fileName?_address` — the scope and the file of an address.
* `Channel.addressesFrom_apart` — no two addresses have the same scope.
* `Channel.isTargetName_fileName` — the form of file names.
* `Channel.addresses_never_collide` — addresses and file names, in one statement.
-/

namespace LintBridge

namespace Channel

open LintBridge.Path (IsName)

variable {temp a : Path} {name : Bytes} {s : String} {stamp stamp' number number' next : Nat}
  {version version' : Int}

/-! ### Scopes -/

theorem isDigit_or_dash_of_mem {c : Char} (h : c ∈ (toString version).toList) :
    Decimal.isDigit c ∨ c = '-' := by
  cases version with
  | ofNat n => exact .inl (Decimal.isDigit_of_mem_digits (n := n) h)
  | negSucc n =>
    have hlist : (toString (Int.negSucc n)).toList = '-' :: Decimal.digits (n + 1) :=
      String.toList_append
    rw [hlist] at h
    rcases List.mem_cons.mp h with rfl | h
    · exact .inr rfl
    · exact .inl (Decimal.isDigit_of_mem_digits h)

/-- The word that the name of a scope begins with. -/
def scopeWord : List Char := ['p', 'r', 'o', 't', 'o', 'l', 'e', 'n', 's']

theorem exists_scopeName_eq (stamp number : Nat) (version : Int) :
    ∃ text : String, scopeName stamp number version = Utf8.encode text ∧
      text.toList = scopeWord ++ '-' :: (Decimal.digits stamp ++ '-' :: (Decimal.digits number ++
        '-' :: (toString version).toList)) :=
  ⟨_, rfl, by simp [Decimal.digits, scopeWord]⟩

/-- **The time and the running number are read back from the name of a scope**, as its second and
third part. -/
theorem scopeName_inj (h : scopeName stamp number version = scopeName stamp' number' version') :
    stamp = stamp' ∧ number = number' := by
  have hdigits (n : Nat) : Text.splitAll '-' (Decimal.digits n) = [Decimal.digits n] :=
    Text.splitAll_eq_singleton (Decimal.not_mem_digits rfl n)
  have hword : Text.splitAll '-' scopeWord = [scopeWord] := Text.splitAll_eq_singleton (by decide)
  obtain ⟨text, htext, hlist⟩ := exists_scopeName_eq stamp number version
  obtain ⟨text', htext', hlist'⟩ := exists_scopeName_eq stamp' number' version'
  obtain rfl : text = text' := Utf8.encode_inj.mp (htext.symm.trans (h.trans htext'))
  have hparts := congrArg (Text.splitAll '-') (hlist.symm.trans hlist')
  simp only [Text.splitAll_append, hword, hdigits, List.singleton_append, List.cons.injEq,
    true_and] at hparts
  exact ⟨Decimal.digits_inj hparts.1, Decimal.digits_inj hparts.2.1⟩

/-- The name of a scope is one normal component. -/
theorem isName_scopeName (stamp number : Nat) (version : Int) :
    IsName (scopeName stamp number version) := by
  obtain ⟨text, htext, hlist⟩ := exists_scopeName_eq stamp number version
  have hhead : ∃ rest, Utf8.encode text = 112 :: rest := by
    rw [Utf8.encode, hlist]
    exact ⟨_, rfl⟩
  rw [htext]
  refine ⟨fun hslash => ?_, ?_, ?_⟩
  · obtain ⟨c, hc, hnat⟩ := (Utf8.mem_encode_iff (by decide)).mp hslash
    obtain rfl : c = '/' := Char.toNat_inj.mp hnat
    have hword : '/' ∉ scopeWord := by decide
    have hdigits := @Decimal.not_mem_digits '/' rfl
    have hversion : '/' ∉ (toString version).toList := fun h => by
      rcases isDigit_or_dash_of_mem h with h | h <;> cases h
    simp only [hlist, List.mem_append, List.mem_cons, hword, hdigits, hversion, or_false,
      false_or] at hc
    revert hc
    decide
  all_goals
    obtain ⟨rest, hrest⟩ := hhead
    rw [hrest]
    simp [Path.isVoid, Path.dot]

/-! ### File names -/

/-- A file name in the language: one normal component, with the extension of the language. -/
structure IsTargetName (name : Bytes) : Prop where
  isName : IsName name
  extension : Path.nameExtension? name = some Language.extension

/-- The extension of a name to which one was added. -/
theorem nameExtension?_append (hname : name ≠ []) {extension : Bytes} (hne : extension ≠ [])
    (hdot : Path.dot ∉ extension) :
    Path.nameExtension? (name ++ Path.dot :: extension) = some extension := by
  have hup : name ++ Path.dot :: extension ≠ [Path.dot, Path.dot] := fun h => by
    have hlength := congrArg List.length h
    have := List.length_pos_of_ne_nil hname
    have := List.length_pos_of_ne_nil hne
    simp at hlength
    omega
  unfold Path.nameExtension?
  rw [if_neg hup, Text.cutLast_append hdot]
  split
  · next h => exact absurd (congrArg Prod.fst (Option.some.inj h)) hname
  · next h => exact congrArg some (congrArg Prod.snd (Option.some.inj h)).symm
  · next h => cases h

theorem isName_untitled : IsName (Utf8.encode untitled) :=
  ⟨by decide +kernel, by decide +kernel, by decide +kernel⟩

/-- The name that a pipe gets is a name in the language. -/
theorem isTargetName_fileName (baseName : String) : IsTargetName (fileName baseName) := by
  have hname : IsName (((Path.ofString baseName).fileName?).getD (Utf8.encode untitled)) := by
    cases h : (Path.ofString baseName).fileName? with
    | none => exact isName_untitled
    | some name => exact Path.isName_of_fileName? h
  unfold fileName
  dsimp only
  generalize ((Path.ofString baseName).fileName?).getD (Utf8.encode untitled) = name at hname ⊢
  split_ifs with hextension
  · exact ⟨hname, hextension⟩
  · exact ⟨hname.append (by decide +kernel) (by decide +kernel),
      nameExtension?_append hname.ne_nil (by decide +kernel) (by decide +kernel)⟩

/-- The extension of a path name is that of its file name. -/
theorem extension?_of_fileName? {p : Path} (h : p.fileName? = some name) :
    p.extension? = Path.nameExtension? name := by
  rw [Path.extension?, h, Option.bind_some]

/-- A base name keeps its last component if that has the extension already. -/
theorem fileName?_of_extension? {baseName : String}
    (h : (Path.ofString baseName).extension? = some Language.extension) :
    (Path.ofString baseName).fileName? = some (fileName baseName) := by
  obtain ⟨name, hname, hextension⟩ := Option.bind_eq_some_iff.mp h
  rw [fileName, hname, Option.getD_some, if_pos hextension]

/-- A name in the language is kept. -/
theorem IsTargetName.fileName_eq (h : IsTargetName (Utf8.encode s)) :
    fileName s = Utf8.encode s := by
  have hname : (Path.ofString s).fileName? = some (Utf8.encode s) := h.isName.fileName?_mk
  have hextension := (extension?_of_fileName? hname).trans h.extension
  exact (Option.some.inj (hname.symm.trans (fileName?_of_extension? hextension))).symm

/-- The name that a pipe gets is that of a text. -/
theorem exists_encode_eq_fileName (baseName : String) :
    ∃ text, Utf8.encode text = fileName baseName := by
  obtain ⟨text, htext⟩ : ∃ text, Utf8.encode text =
      ((Path.ofString baseName).fileName?).getD (Utf8.encode untitled) := by
    cases h : (Path.ofString baseName).fileName? with
    | none => exact ⟨untitled, rfl⟩
    | some name => exact Path.exists_encode_of_fileName? h
  unfold fileName
  rw [← htext]
  dsimp only
  split_ifs
  · exact ⟨text, rfl⟩
  · refine ⟨text ++ ".proto", ?_⟩
    rw [Utf8.encode_append]
    rfl

/-! ### Addresses -/

variable {baseName : String}

/-- The scope of an address stands in the directory for temporary files, and the file in the
scope. -/
theorem parent?_address (temp : Path) (stamp number : Nat) (version : Int) (baseName : String) :
    (address temp stamp number version baseName).parent? =
      some (temp.join ⟨scopeName stamp number version⟩) :=
  Path.parent?_join temp (isName_scopeName stamp number version)
    (isTargetName_fileName baseName).isName

theorem fileName?_address (temp : Path) (stamp number : Nat) (version : Int) (baseName : String) :
    (address temp stamp number version baseName).fileName? = some (fileName baseName) :=
  Path.fileName?_join _ (isTargetName_fileName baseName).isName

/-- What an address is made for: the time on the clock, and the version and the base name of a
document. -/
structure Demand where
  stamp : Nat
  version : Int
  baseName : String

/-- The addresses that are made one after another, in the directory `temp` for temporary files. The
first one is numbered `next`. -/
def addressesFrom (temp : Path) (next : Nat) : List Demand → List Path
  | [] => []
  | d :: ds =>
    address temp d.stamp next d.version d.baseName :: addressesFrom temp (next + 1) ds

/-- Two addresses have scopes that are different as paths. -/
def Apart (a b : Path) : Prop :=
  ∃ scope scope', a.parent? = some scope ∧ b.parent? = some scope' ∧ ¬ scope.sameAs scope'

/-- Addresses with different running numbers have different scopes. -/
theorem apart_of_ne (hne : number ≠ number') (stamp stamp' : Nat) (version version' : Int)
    (baseName baseName' : String) :
    Apart (address temp stamp number version baseName)
      (address temp stamp' number' version' baseName') := by
  refine ⟨_, _, parent?_address .., parent?_address .., fun same => hne ?_⟩
  rw [Path.sameAs_iff, Path.components_join temp (isName_scopeName ..),
    Path.components_join temp (isName_scopeName ..)] at same
  have hlast := Component.name.inj (List.singleton_inj.mp (List.append_cancel_left same))
  exact (scopeName_inj hlast).2

/-- An address that is made later has a later number. -/
theorem exists_number_of_mem {demands : List Demand} (ha : a ∈ addressesFrom temp next demands) :
    ∃ d ∈ demands, ∃ number, next ≤ number ∧
      a = address temp d.stamp number d.version d.baseName := by
  induction demands generalizing next with
  | nil => cases ha
  | cons d demands ih =>
    rcases List.mem_cons.mp ha with rfl | ha
    · exact ⟨d, List.mem_cons_self, next, Nat.le_refl next, rfl⟩
    · obtain ⟨e, he, number, hle, rfl⟩ := ih ha
      exact ⟨e, List.mem_cons_of_mem d he, number, Nat.le_of_succ_le hle, rfl⟩

/-- **No two addresses have the same scope.** -/
theorem addressesFrom_apart (temp : Path) (next : Nat) (demands : List Demand) :
    (addressesFrom temp next demands).Pairwise Apart := by
  induction demands generalizing next with
  | nil => exact List.Pairwise.nil
  | cons d demands ih =>
    refine List.pairwise_cons.mpr ⟨fun b hb => ?_, ih (next + 1)⟩
    obtain ⟨e, -, number, hle, rfl⟩ := exists_number_of_mem hb
    exact apart_of_ne (by omega) ..

/-- **Addresses never collide, and name a file in the language in a scope of their own.**

1. Of the addresses that are made one after another, whatever the clock says and whichever documents
   they are for, no two have the same scope.
2. Each of them stands directly in its scope, with the file name for its base name.
3. A file name is one normal component, so it is not empty, and neither one dot nor two. Its
   extension is that of the language. A base name whose last component has this extension keeps that
   component. And a file name that is taken for a base name is kept as it is. -/
theorem addresses_never_collide (temp : Path) (next : Nat) (demands : List Demand) :
    (addressesFrom temp next demands).Pairwise Apart ∧
    (∀ a ∈ addressesFrom temp next demands, ∃ d ∈ demands, ∃ number,
      a.parent? = some (temp.join ⟨scopeName d.stamp number d.version⟩) ∧
      a.fileName? = some (fileName d.baseName)) ∧
    ∀ baseName,
      IsName (fileName baseName) ∧
      (⟨fileName baseName⟩ : Path).components = [.name (fileName baseName)] ∧
      (⟨fileName baseName⟩ : Path).extension? = some (Utf8.encode "proto") ∧
      ((Path.ofString baseName).extension? = some (Utf8.encode "proto") →
        (Path.ofString baseName).fileName? = some (fileName baseName)) ∧
      ∃ name, Utf8.encode name = fileName baseName ∧ fileName name = fileName baseName := by
  refine ⟨addressesFrom_apart temp next demands, fun a ha => ?_, fun baseName => ?_⟩
  · obtain ⟨d, hd, number, -, rfl⟩ := exists_number_of_mem ha
    exact ⟨d, hd, number, parent?_address .., fileName?_address ..⟩
  · have htarget := isTargetName_fileName baseName
    obtain ⟨name, hname⟩ := exists_encode_eq_fileName baseName
    refine ⟨htarget.isName, Path.components_eq_singleton_iff.mpr htarget.isName, ?_,
      fileName?_of_extension?, name, hname, ?_⟩
    · exact (extension?_of_fileName? htarget.isName.fileName?_mk).trans htarget.extension
    · rw [← hname] at htarget ⊢
      exact htarget.fileName_eq

/-- Three documents at a clock that stands still and then goes back, with names that end in the
extension, in two dots and in nothing but the extension. -/
def oddDemands : List Demand := [⟨7, -1, "a/b.proto/"⟩, ⟨7, -1, "a/.."⟩, ⟨3, 2, ".proto"⟩]

/-- The first two addresses differ in the running number alone, and the first one has the name of
its document. -/
theorem odd_never_collide :
    Apart (address (.ofString "/tmp") 7 4 (-1) "a/b.proto/")
      (address (.ofString "/tmp") 7 5 (-1) "a/..") ∧
    (address (.ofString "/tmp") 7 4 (-1) "a/b.proto/").fileName? = some (Utf8.encode "b.proto") ∧
    (Path.ofString "a/b.proto/").fileName? = some (fileName "a/b.proto/") ∧
    oddDemands.map (fun d => fileName d.baseName) =
      ["b.proto", "untitled.proto", ".proto.proto"].map Utf8.encode := by
  obtain ⟨hapart, haddress, hname⟩ := addresses_never_collide (.ofString "/tmp") 4 oddDemands
  have hnames : oddDemands.map (fun d => fileName d.baseName) =
      ["b.proto", "untitled.proto", ".proto.proto"].map Utf8.encode := by decide +kernel
  have hfirst : fileName "a/b.proto/" = Utf8.encode "b.proto" := by decide +kernel
  have hfile : (address (.ofString "/tmp") 7 4 (-1) "a/b.proto/").fileName? =
      some (Utf8.encode "b.proto") := by
    rw [fileName?_address, hfirst]
  have hextension : (Path.ofString "a/b.proto/").extension? = some (Utf8.encode "proto") := by
    decide +kernel
  exact ⟨(List.pairwise_cons.mp hapart).1 _ List.mem_cons_self, hfile,
    (hname "a/b.proto/").2.2.2.1 hextension, hnames⟩

end Channel

end LintBridge
