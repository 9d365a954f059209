import LintBridge.Proofs.Path.Parent
import LintBridge.Proofs.Text.Utf8

/-!
# The components of a path name

How a path name begins tells its first component if it is absolute or begins with a dot; all other
components are those parts that stand for something (`Path.components_eq`). So a part that stands
for nothing, wherever it is but at the very beginning, makes no difference
(`Path.components_of_void`): slashes may be repeated or stand at the end, and dots may stand between
them.

What may stand between two slashes as a component of its own is a name (`Path.IsName`). A name that
is joined to a path name becomes its last component, and the parent is the path name that it was
joined to.

## Main definitions

* `Path.beginning` — the component that a path name has because of how it begins.
* `Path.IsName` — what is written is one normal component.

## Main results

* `Path.components_eq` — where the components of a path name come from.
* `Path.components_eq_singleton_iff` — the path names that are one normal component.
* `Path.components_join`, `Path.fileName?_join`, `Path.parent?_join` — a path name and one more
  name.
-/

namespace LintBridge

namespace Path

variable {p q : Path} {n part : Bytes} {before after : List Bytes}

theorem sameAs_iff : p.sameAs q ↔ p.components = q.components := by
  simp [sameAs]

theorem startsWith_iff : p.startsWith q ↔ q.components <+: p.components :=
  List.isPrefixOf_iff_prefix

/-! ### Where components come from -/

/-- The component that a path name has because of how it begins: the root, or a dot. -/
def beginning (p : Path) : List Component :=
  if p.isAbsolute then [.root] else if p.parts.head? = some [dot] then [.here] else []

theorem componentOf?_eq_none_iff : componentOf? part = none ↔ isVoid part := by
  unfold componentOf?
  split_ifs with hvoid <;> simp [isVoid, hvoid]

theorem parts_ne_nil (p : Path) : p.parts ≠ [] := Text.splitAll_ne_nil p.bytes

/-- **The components of a path name** are its beginning and the parts that stand for something. -/
theorem components_eq (p : Path) :
    p.components = p.beginning ++ p.parts.filterMap componentOf? := by
  unfold components beginning
  split_ifs with absolute hdot
  · rfl
  · obtain ⟨rest, hparts⟩ := List.head?_eq_some_iff.mp hdot
    rw [hparts]
    rfl
  · obtain ⟨first, rest, hparts⟩ := List.exists_cons_of_ne_nil p.parts_ne_nil
    have hfirst : first ≠ [dot] := by simpa [hparts] using hdot
    rw [hparts]
    simp only [if_neg hfirst, List.nil_append, List.filterMap_cons]
    cases componentOf? first <;> rfl

/-- **A part that stands for nothing makes no difference**, unless it is the first one. -/
theorem components_of_void (hp : p.parts = before ++ part :: after) (hq : q.parts = before ++ after)
    (hvoid : isVoid part) (hbefore : before ≠ []) (habsolute : p.isAbsolute = q.isAbsolute) :
    p.components = q.components := by
  obtain ⟨first, rest, rfl⟩ := List.exists_cons_of_ne_nil hbefore
  have hbeginning : p.beginning = q.beginning := by simp [beginning, habsolute, hp, hq]
  rw [components_eq, components_eq, hbeginning, hp, hq, List.filterMap_append,
    List.filterMap_append, List.filterMap_cons_none (componentOf?_eq_none_iff.mpr hvoid)]

example : (ofString "//a/.//../b/").sameAs (ofString "/a/../b") ∧
    ¬ (ofString "./a").sameAs (ofString "a") := by decide +kernel

/-! ### Names -/

/-- What is written is one normal component: it stands for something other than the parent, and no
slash divides it. -/
structure IsName (n : Bytes) : Prop where
  no_slash : slash ∉ n
  not_void : ¬ isVoid n
  not_up : n ≠ [dot, dot]

theorem IsName.ne_nil (hn : IsName n) : n ≠ [] := ne_nil_of_not_isVoid hn.not_void

/-- A name stays one with more behind it, unless a slash is added. -/
theorem IsName.append (hn : IsName n) {added : Bytes} (hslash : slash ∉ added)
    (hadded : 2 ≤ added.length) : IsName (n ++ added) := by
  have hlength : 3 ≤ (n ++ added).length := by
    have hpos := List.length_pos_of_ne_nil hn.ne_nil
    rw [List.length_append]
    omega
  refine ⟨?_, fun hvoid => ?_, fun hup => ?_⟩
  · rw [List.mem_append, not_or]
    exact ⟨hn.no_slash, hslash⟩
  · have hvoid : n ++ added = [] ∨ n ++ added = [dot] := by simpa only [isVoid, Bool.or_eq_true,
      decide_eq_true_eq] using hvoid
    rcases hvoid with h | h <;> rw [h] at hlength <;> simp at hlength
  · rw [hup] at hlength
    simp at hlength

theorem IsName.componentOf?_eq (hn : IsName n) : componentOf? n = some (.name n) := by
  have hvoid : ¬ (n = [] ∨ n = [dot]) := by simpa [isVoid] using hn.not_void
  rw [componentOf?, if_neg hvoid, if_neg hn.not_up]

theorem eq_of_componentOf? (h : componentOf? part = some (.name n)) : part = n := by
  unfold componentOf? at h
  split_ifs at h with hvoid hup
  · cases h
  · exact Component.name.inj (Option.some.inj h)

/-- A component with a name stands for itself as a part. -/
theorem componentOf?_of_name_mem (h : .name n ∈ p.components) :
    n ∈ p.parts ∧ componentOf? n = some (.name n) := by
  rw [components_eq, List.mem_append] at h
  rcases h with hbeginning | hparts
  · unfold beginning at hbeginning
    split_ifs at hbeginning <;> simp at hbeginning
  · obtain ⟨part, hpart, hn⟩ := List.mem_filterMap.mp hparts
    obtain rfl := eq_of_componentOf? hn
    exact ⟨hpart, hn⟩

/-- A component with a name is one normal component. -/
theorem isName_of_name_mem (h : .name n ∈ p.components) : IsName n := by
  obtain ⟨hpart, hn⟩ := componentOf?_of_name_mem h
  refine ⟨not_slash_of_mem_parts hpart, fun hvoid => ?_, ?_⟩
  · rw [componentOf?_eq_none_iff.mpr hvoid] at hn
    cases hn
  · rintro rfl
    cases hn

theorem IsName.parts_mk (hn : IsName n) : (⟨n⟩ : Path).parts = [n] :=
  Text.splitAll_eq_singleton hn.no_slash

theorem IsName.isRelative (hn : IsName n) : (⟨n⟩ : Path).isAbsolute = false := by
  have hslash : n.head? ≠ some slash := fun h => hn.no_slash (List.mem_of_mem_head? h)
  simpa [isAbsolute] using hslash

/-- **A path name that is one normal component** is a name. -/
theorem components_eq_singleton_iff : (⟨n⟩ : Path).components = [.name n] ↔ IsName n := by
  refine ⟨fun h => isName_of_name_mem (h ▸ List.mem_singleton_self _), fun hn => ?_⟩
  have hdot : n ≠ [dot] := fun h => hn.not_void (by simp [isVoid, h])
  simp [components_eq, beginning, hn.isRelative, hn.parts_mk, hn.componentOf?_eq, hdot]

theorem fileName?_eq_some_iff : p.fileName? = some n ↔ p.components.getLast? = some (.name n) := by
  unfold fileName?
  split <;> simp_all

/-- A file name is one normal component, which stands as a part of the path name. -/
theorem isName_of_fileName? (h : p.fileName? = some n) : IsName n :=
  isName_of_name_mem (List.mem_of_getLast? (fileName?_eq_some_iff.mp h))

theorem mem_parts_of_fileName? (h : p.fileName? = some n) : n ∈ p.parts :=
  (componentOf?_of_name_mem (List.mem_of_getLast? (fileName?_eq_some_iff.mp h))).1

theorem IsName.fileName?_mk (hn : IsName n) : (⟨n⟩ : Path).fileName? = some n :=
  fileName?_eq_some_iff.mpr (by rw [components_eq_singleton_iff.mpr hn]; rfl)

/-! ### Path names from texts -/

theorem slash_mem_utf8EncodeChar_iff {c : Char} :
    slash ∈ String.utf8EncodeChar c ↔ c = '/' := by
  rw [Utf8.mem_utf8EncodeChar_iff (by decide)]
  exact ⟨fun h => Char.toNat_inj.mp h, fun h => h ▸ rfl⟩

/-- A path name from a text is divided where the text is. -/
theorem parts_ofString (s : String) :
    (ofString s).parts = (Text.splitAll '/' s.toList).map (·.flatMap String.utf8EncodeChar) := by
  have hsplit (cs : List Char) : Text.splitAll slash (cs.flatMap String.utf8EncodeChar) =
      (Text.splitAll '/' cs).map (·.flatMap String.utf8EncodeChar) := by
    induction cs with
    | nil => rfl
    | cons c cs ih =>
      rw [List.flatMap_cons, Text.splitAll_cons]
      by_cases hc : c = '/'
      · subst hc
        rw [if_pos rfl, List.map_cons, ← ih]
        exact Text.splitAll_append [] _
      · rw [if_neg hc, Text.splitAll_append_of_not_mem (mt slash_mem_utf8EncodeChar_iff.mp hc), ih]
        cases Text.splitAll '/' cs <;> simp
  exact hsplit s.toList

/-- The file name of a path name from a text is that of a text. -/
theorem exists_encode_of_fileName? {s : String} (h : (ofString s).fileName? = some n) :
    ∃ t, Utf8.encode t = n := by
  have hpart := mem_parts_of_fileName? h
  rw [parts_ofString] at hpart
  obtain ⟨part, -, rfl⟩ := List.mem_map.mp hpart
  exact ⟨String.ofList part, by rw [Utf8.encode, String.toList_ofList]⟩

/-! ### One more name -/

/-- A name is written behind the parts of a path name, in the place of an empty one at their end. -/
theorem exists_parts_join (p : Path) (hn : IsName n) :
    ∃ kept voids, p.parts = kept ++ voids ∧ (p.join ⟨n⟩).parts = kept ++ [n] ∧
      (∀ v ∈ voids, v = []) ∧ (kept = [] → p.bytes = []) := by
  unfold join
  rw [hn.isRelative, if_neg Bool.false_ne_true]
  split_ifs with hempty hslash
  · exact ⟨[], [[]], by rw [parts, hempty]; rfl, hn.parts_mk, by simp, fun _ => hempty⟩
  · obtain ⟨front, hfront⟩ := List.getLast?_eq_some_iff.mp hslash
    refine ⟨Text.splitAll slash front, [[]], ?_, ?_, by simp, fun h => ?_⟩
    · rw [parts, hfront, Text.splitAll_append]
      rfl
    · rw [parts, hfront, List.append_assoc, List.singleton_append, Text.splitAll_append,
        Text.splitAll_eq_singleton hn.no_slash]
    · exact absurd h (Text.splitAll_ne_nil front)
  · refine ⟨p.parts, [], (List.append_nil _).symm, ?_, by simp, fun h => absurd h p.parts_ne_nil⟩
    rw [parts, Text.splitAll_append, Text.splitAll_eq_singleton hn.no_slash]
    rfl

theorem isAbsolute_join_of_isName (hn : IsName n) : (p.join ⟨n⟩).isAbsolute = p.isAbsolute := by
  unfold join
  rw [hn.isRelative, if_neg Bool.false_ne_true]
  split_ifs with hempty hslash
  · rw [hn.isRelative, isAbsolute, hempty]
    rfl
  all_goals
    obtain ⟨b, bytes, hbytes⟩ := List.exists_cons_of_ne_nil hempty
    simp [isAbsolute, hbytes]

/-- **A name that is joined to a path name becomes its last component.** -/
theorem components_join (p : Path) (hn : IsName n) :
    (p.join ⟨n⟩).components = p.components ++ [.name n] := by
  obtain ⟨kept, voids, hparts, hjoin, hvoids, hkept⟩ := exists_parts_join p hn
  have hnone : voids.filterMap componentOf? = [] :=
    List.filterMap_eq_nil_iff.mpr fun v hv => by rw [hvoids v hv]; rfl
  have hbeginning : (p.join ⟨n⟩).beginning = p.beginning := by
    unfold beginning
    rw [isAbsolute_join_of_isName hn, hparts, hjoin]
    cases kept with
    | cons first kept => rfl
    | nil =>
      have hdot : n ≠ [dot] := fun h => hn.not_void (by simp [isVoid, h])
      have hhead : voids.head? ≠ some [dot] := fun h => by
        cases hvoids _ (List.mem_of_mem_head? h)
      simp [hdot, hhead]
  rw [components_eq, components_eq, hbeginning, hjoin, hparts, List.filterMap_append,
    List.filterMap_append, hnone, List.append_nil, List.filterMap_cons_some hn.componentOf?_eq,
    List.filterMap_nil, List.append_assoc]

theorem fileName?_join (p : Path) (hn : IsName n) : (p.join ⟨n⟩).fileName? = some n := by
  rw [fileName?_eq_some_iff, components_join p hn, List.getLast?_concat]

theorem dropVoid_concat (parts : List Bytes) (hn : ¬ isVoid n) :
    dropVoid (parts ++ [n]) = parts ++ [n] :=
  List.rdropWhile_concat_neg isVoid parts n hn

/-- A name that is joined to a path name which ends with a name is written behind it, as a part of
its own. -/
theorem parts_join_join (p : Path) {m : Bytes} (hm : IsName m) (hn : IsName n) :
    ((p.join ⟨m⟩).join ⟨n⟩).parts = (p.join ⟨m⟩).parts ++ [n] := by
  obtain ⟨kept, voids, -, hm', -, -⟩ := exists_parts_join p hm
  obtain ⟨kept', voids', hparts, hjoin, hvoids, -⟩ := exists_parts_join (p.join ⟨m⟩) hn
  have hnone : voids' = [] := by
    by_contra hne
    have hlast := congrArg List.getLast? (hm'.symm.trans hparts)
    rw [List.getLast?_concat, List.getLast?_append_of_ne_nil _ hne] at hlast
    exact hm.ne_nil (hvoids m (List.mem_of_getLast? hlast.symm))
  rw [hjoin, hparts, hnone, List.append_nil]

/-- The parent of a path name is what stands before its last name, if nothing void stands there. -/
theorem parent?_eq {first : Bytes} {rest : List Bytes} (hq : q.parts = first :: rest)
    (hrest : dropVoid rest = rest) (hp : p.parts = q.parts ++ [n]) (hn : ¬ isVoid n)
    (hlast : p.fileName? = some n) (habsolute : p.isAbsolute = q.isAbsolute)
    (hroot : q.isAbsolute → rest ≠ []) : p.parent? = some q := by
  have hback : ofParts (first :: rest) = q := hq ▸ ofParts_parts q
  have hconcat : dropVoid (rest ++ [n]) = rest ++ [n] := dropVoid_concat rest hn
  unfold parent?
  rw [fileName?_eq_some_iff.mp hlast, habsolute, hp, hq]
  dsimp only [List.cons_append, List.tail_cons]
  rw [hconcat, List.dropLast_concat, hrest]
  split_ifs with absolute
  · obtain ⟨second, rest, rfl⟩ := List.exists_cons_of_ne_nil (hroot absolute)
    obtain rfl : first = [] := by
      rw [parts_of_isAbsolute absolute] at hq
      exact (List.cons.inj hq).1.symm
    rw [ofParts_nil_cons (List.cons_ne_nil _ _)] at hback
    exact congrArg some hback
  · split
    · next h => exact absurd h (List.append_ne_nil_of_right_ne_nil rest (List.cons_ne_nil n []))
    · rw [List.dropLast_concat, hrest, hback]

/-- **The parent of a path name with one more name** is the path name, if that ends with a name. -/
theorem parent?_join (p : Path) {m : Bytes} (hm : IsName m) (hn : IsName n) :
    ((p.join ⟨m⟩).join ⟨n⟩).parent? = some (p.join ⟨m⟩) := by
  obtain ⟨kept, voids, -, hparts, -, -⟩ := exists_parts_join p hm
  have hlast := fileName?_join (p.join ⟨m⟩) hn
  have habsolute := isAbsolute_join_of_isName (p := p.join ⟨m⟩) hn
  cases kept with
  | nil =>
    refine parent?_eq hparts rfl (parts_join_join p hm hn) hn.not_void hlast habsolute fun h => ?_
    rw [parts_of_isAbsolute h] at hparts
    exact absurd (List.cons.inj hparts).1.symm hm.ne_nil
  | cons first kept =>
    exact parent?_eq hparts (dropVoid_concat kept hm.not_void) (parts_join_join p hm hn)
      hn.not_void hlast habsolute fun _ => by simp

end Path

end LintBridge
