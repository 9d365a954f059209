import LintBridge.Proofs.Path.Components
import LintBridge.Workspace.Root

/-!
# The workspace root of a document is its deepest owner

The folders that own a document are written with the components at the beginning of the document's
own. So of two of them one begins the other, and those that are equally deep are equal as paths. The
deepest owner in a list is therefore one path, whichever way the list is ordered, and only how it is
written depends on which of several equal folders comes last (`Workspace.IsDeepestOwner`).

The owner is found in one pass over the list. A folder at the end of the list takes the place of the
owner found so far if it owns the document and is at least as deep (`Workspace.owner?_concat`).

## Main definitions

* `Workspace.Owns` — a folder owns a document.
* `Workspace.IsDeepestOwner` — a folder is the deepest owner in a list, as written last.

## Main results

* `Workspace.owner?_eq_some_iff` — the owner that is found is the deepest one.
* `Workspace.root?_selects` — which folder is the workspace root.
-/

namespace LintBridge

namespace Workspace

variable {d f g r r' : Path} {folders folders' before extra after : List Path}

/-! ### Owners -/

/-- A folder owns a document if its components begin those of the document. -/
def Owns (f document : Path) : Prop := f.components <+: document.components

instance (f document : Path) : Decidable (Owns f document) :=
  inferInstanceAs (Decidable (f.components <+: document.components))

/-- The folder is the deepest owner of a document in a list: every owner of the document in the list
begins it. Of the folders that are equal to it as paths it is written last. -/
structure IsDeepestOwner (document : Path) (folders : List Path) (f : Path) : Prop where
  owns : Owns f document
  deepest : ∀ g ∈ folders, Owns g document → g.components <+: f.components
  last : (folders.filter fun g => g.sameAs f).getLast? = some f

/-- Of two owners of a document the less deep one begins the other. -/
theorem Owns.prefix_of_depth_le (hf : Owns f d) (hg : Owns g d) (hle : f.depth ≤ g.depth) :
    f.components <+: g.components :=
  List.prefix_of_prefix_length_le hf hg hle

theorem IsDeepestOwner.mem (h : IsDeepestOwner d folders r) : r ∈ folders :=
  List.mem_of_mem_filter (List.mem_of_getLast? h.last)

/-- The deepest owners in two lists with the same owners are equal as paths. -/
theorem IsDeepestOwner.sameAs (h : IsDeepestOwner d folders r) (h' : IsDeepestOwner d folders' r')
    (same : ∀ f, Owns f d → (f ∈ folders' ↔ f ∈ folders)) : r'.sameAs r := by
  have hle : r.components <+: r'.components := h'.deepest r ((same r h.owns).mpr h.mem) h.owns
  have hge : r'.components <+: r.components := h.deepest r' ((same r' h'.owns).mp h'.mem) h'.owns
  exact Path.sameAs_iff.mpr (hge.eq_of_length_le hle.length_le)

/-- A list has one deepest owner at most, since of equal folders one is written last. -/
theorem IsDeepestOwner.unique (h : IsDeepestOwner d folders r)
    (h' : IsDeepestOwner d folders r') : r' = r := by
  have hsame : r'.components = r.components :=
    Path.sameAs_iff.mp (h.sameAs h' fun _ _ => Iff.rfl)
  have hequal : (fun g : Path => g.sameAs r') = fun g => g.sameAs r := by
    funext g
    rw [Path.sameAs, Path.sameAs, hsame]
  have hlast := h'.last
  rw [hequal, h.last] at hlast
  exact (Option.some.inj hlast).symm

/-- A folder that every owner so far begins takes their place. -/
theorem isDeepestOwner_concat (hf : Owns f d)
    (hbegins : ∀ g ∈ folders, Owns g d → g.components <+: f.components) :
    IsDeepestOwner d (folders ++ [f]) f where
  owns := hf
  deepest g hg howns := by
    rcases List.mem_append.mp hg with hg | hg
    · exact hbegins g hg howns
    · obtain rfl := List.mem_singleton.mp hg
      exact List.prefix_rfl
  last := by
    have hself : [f].filter (fun g => g.sameAs f) = [f] := by simp [Path.sameAs_iff]
    rw [List.filter_append, hself, List.getLast?_concat]

/-- A folder that is no owner, or not as deep, does not. -/
theorem IsDeepestOwner.concat (h : IsDeepestOwner d folders g)
    (hf : Owns f d → f.depth < g.depth) : IsDeepestOwner d (folders ++ [f]) g where
  owns := h.owns
  deepest k hk howns := by
    rcases List.mem_append.mp hk with hk | hk
    · exact h.deepest k hk howns
    · obtain rfl := List.mem_singleton.mp hk
      exact howns.prefix_of_depth_le h.owns (hf howns).le
  last := by
    have hother : ¬ f.sameAs g := fun hsame => by
      have hcomponents := Path.sameAs_iff.mp hsame
      have hlt := hf (by rw [Owns, hcomponents]; exact h.owns)
      rw [Path.depth, hcomponents] at hlt
      exact lt_irrefl _ hlt
    have hnone : [f].filter (fun k => k.sameAs g) = [] := by simp [hother]
    rw [List.filter_append, hnone, List.append_nil, h.last]

/-! ### Finding the owner -/

theorem filter_startsWith (d : Path) (folders : List Path) :
    folders.filter d.startsWith = folders.filter fun f => Owns f d :=
  List.filter_congr fun f _ => by
    rw [Bool.eq_iff_iff, Path.startsWith_iff, decide_eq_true_iff, Owns]

/-- A folder at the end of the list counts if it owns the document. -/
theorem owner?_concat (d f : Path) (folders : List Path) :
    owner? d (folders ++ [f]) =
      if Owns f d then some ((owner? d folders).elim f (deeper · f)) else owner? d folders := by
  unfold owner?
  rw [filter_startsWith, filter_startsWith, List.filter_append]
  by_cases howns : Owns f d
  · cases folders.filter fun f => Owns f d <;> simp [howns]
  · simp [howns]

theorem owner?_eq_none_iff : owner? d folders = none ↔ ∀ f ∈ folders, ¬ Owns f d := by
  induction folders using List.reverseRecOn with
  | nil => simp [owner?]
  | append_singleton folders f ih =>
    rw [owner?_concat, List.forall_mem_append, List.forall_mem_singleton, ← ih]
    by_cases howns : Owns f d <;> simp [howns]

/-- **The owner that is found is the deepest one.** -/
theorem isDeepestOwner_of_owner? (h : owner? d folders = some r) :
    IsDeepestOwner d folders r := by
  induction folders using List.reverseRecOn generalizing r with
  | nil => cases h
  | append_singleton folders f ih =>
    rw [owner?_concat] at h
    by_cases howns : Owns f d
    · rw [if_pos howns] at h
      cases howner : owner? d folders with
      | none =>
        rw [howner] at h
        obtain rfl := Option.some.inj h
        exact isDeepestOwner_concat howns fun g hg hgowns =>
          absurd hgowns (owner?_eq_none_iff.mp howner g hg)
      | some g =>
        have hg := ih howner
        rw [howner, Option.elim_some, deeper, Option.some_inj] at h
        by_cases hlt : f.depth < g.depth
        · rw [if_pos hlt] at h
          exact h ▸ hg.concat fun _ => hlt
        · rw [if_neg hlt] at h
          refine h ▸ isDeepestOwner_concat howns fun k hk hkowns => ?_
          exact (hg.deepest k hk hkowns).trans
            (hg.owns.prefix_of_depth_le howns (not_lt.mp hlt))
    · rw [if_neg howns] at h
      exact (ih h).concat fun hf => absurd hf howns

/-- **The owner that is found is the deepest one, and if there is an owner one is found.** -/
theorem owner?_eq_some_iff : owner? d folders = some r ↔ IsDeepestOwner d folders r := by
  refine ⟨isDeepestOwner_of_owner?, fun h => ?_⟩
  have hne : owner? d folders ≠ none := fun hnone =>
    owner?_eq_none_iff.mp hnone r h.mem h.owns
  obtain ⟨r', hr'⟩ := Option.ne_none_iff_exists'.mp hne
  rw [hr', h.unique (isDeepestOwner_of_owner? hr')]

/-- Folders that do not own the document make no difference. -/
theorem owner?_append_append (hextra : ∀ f ∈ extra, ¬ Owns f d) :
    owner? d (before ++ extra ++ after) = owner? d (before ++ after) := by
  have hnone : extra.filter (fun f => Owns f d) = [] :=
    List.filter_eq_nil_iff.mpr fun f hf => by simpa using hextra f hf
  simp only [owner?, filter_startsWith, List.filter_append, hnone, List.append_nil]

/-! ### The root -/

theorem root?_of_owner? (h : owner? d folders = some r) : root? (some d) folders = some r := by
  rw [root?, Option.bind_some, h]

theorem root?_of_not_owned {document : Option Path} (h : ∀ d ∈ document, owner? d folders = none) :
    root? document folders = folders.head? := by
  have hnone : document.bind (owner? · folders) = none := Option.bind_eq_none_iff.mpr h
  rw [root?, hnone]

/-- **Which folder is the workspace root of a document.**

1. There is none if and only if the list of folders is empty.
2. If no folder owns the document, or there is no document, it is the first one.
3. If some folder does, it is the deepest owner in the list. As a path it is the same for every list
   with the same owners, however they are ordered and however often they occur. And folders that do
   not own the document can be added anywhere without making a difference. -/
theorem root?_selects (document : Option Path) (folders : List Path) :
    (root? document folders = none ↔ folders = []) ∧
    ((∀ d ∈ document, ∀ f ∈ folders, ¬ Owns f d) → root? document folders = folders.head?) ∧
    ∀ d ∈ document, (∃ f ∈ folders, Owns f d) →
      ∃ r, root? document folders = some r ∧ IsDeepestOwner d folders r ∧
        (∀ folders', (∀ f, Owns f d → (f ∈ folders' ↔ f ∈ folders)) →
          ∃ r', root? document folders' = some r' ∧ r'.sameAs r) ∧
        ∀ before extra after, folders = before ++ after → (∀ f ∈ extra, ¬ Owns f d) →
          root? document (before ++ extra ++ after) = some r := by
  have first (h : ∀ d ∈ document, ∀ f ∈ folders, ¬ Owns f d) :
      root? document folders = folders.head? :=
    root?_of_not_owned fun d hd => owner?_eq_none_iff.mpr (h d hd)
  have owned (d : Path) (folders : List Path) (h : ∃ f ∈ folders, Owns f d) :
      ∃ r, owner? d folders = some r := by
    obtain ⟨f, hf, howns⟩ := h
    exact Option.ne_none_iff_exists'.mp fun hnone => owner?_eq_none_iff.mp hnone f hf howns
  refine ⟨?none, first, fun d hd hsome => ?deepest⟩
  case none =>
    constructor
    · intro hnone
      have hunowned : ∀ d ∈ document, ∀ f ∈ folders, ¬ Owns f d := by
        rintro d rfl f hf howns
        obtain ⟨r, hr⟩ := owned d folders ⟨f, hf, howns⟩
        rw [root?_of_owner? hr] at hnone
        cases hnone
      rwa [first hunowned, List.head?_eq_none_iff] at hnone
    · rintro rfl
      exact first fun d _ f hf => absurd hf List.not_mem_nil
  case deepest =>
    obtain rfl := Option.mem_def.mp hd
    obtain ⟨r, hr⟩ := owned d folders hsome
    have hdeepest := isDeepestOwner_of_owner? hr
    refine ⟨r, root?_of_owner? hr, hdeepest, fun folders' same => ?_, ?_⟩
    · obtain ⟨r', hr'⟩ := owned d folders' ⟨r, (same r hdeepest.owns).mpr hdeepest.mem,
        hdeepest.owns⟩
      exact ⟨r', root?_of_owner? hr', hdeepest.sameAs (isDeepestOwner_of_owner? hr') same⟩
    · rintro before extra after rfl hextra
      exact root?_of_owner? ((owner?_append_append hextra).trans hr)

/-- A document two folders deep, with a dot in its path. -/
def inner : Path := .ofString "/w/a/./b.proto"

/-- A folder and one inside it, which is written in two ways, among others. -/
def nested : List Path := ["/w//a", "/v", "/w", "/w/a/", "/w/b"].map .ofString

/-- The inner folder is selected, as it is written last. In the reverse order it is selected as it
is written at first, and a folder with a longer name beside it makes no difference. -/
theorem inner_selects :
    root? (some inner) nested = some (.ofString "/w/a/") ∧
    IsDeepestOwner inner nested (.ofString "/w/a/") ∧
    (∃ r, root? (some inner) nested.reverse = some r ∧ r.sameAs (.ofString "/w/a/")) ∧
    root? (some inner) (nested ++ [.ofString "/w/a-2"] ++ []) = some (.ofString "/w/a/") := by
  have hsome : ∃ f ∈ nested, Owns f inner := by decide +kernel
  have hextra : ∀ f ∈ [Path.ofString "/w/a-2"], ¬ Owns f inner := by decide +kernel
  obtain ⟨r, hr, hdeepest, hsame, hadded⟩ := (root?_selects (some inner) nested).2.2 inner rfl hsome
  have hroot : root? (some inner) nested = some (.ofString "/w/a/") := by decide +kernel
  obtain rfl := Option.some.inj (hr.symm.trans hroot)
  exact ⟨hroot, hdeepest, hsame nested.reverse fun f _ => List.mem_reverse,
    hadded nested _ [] (List.append_nil _).symm hextra⟩

/-- A folder does not own what only begins with the same letters. -/
example : root? (some (.ofString "/work/api-v2/a.proto"))
    [.ofString "/other", .ofString "/work/api"] = some (.ofString "/other") := by decide +kernel

end Workspace

end LintBridge
