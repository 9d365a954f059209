import Mathlib.Data.List.DropRight
import LintBridge.Json.Reader
import LintBridge.Proofs.Json.Tokens

/-!
# Printed values read as documents

The reader of documents takes nothing but JSON, and of a printed value it takes everything. It skips
the blanks before a value (`Json.readValue?_congr`), so indentation makes no difference, and it
reads a value up to the comma or the line break that follows it (`Json.IsRead`). Containers may not
be nested too deeply (`Json.FitsIn`): what is nested in a container has one level less to itself.

Each step of the reader takes at least one character, so it is enough if it may take as many steps
as the text has characters.

## Main definitions

* `Json.FitsIn` — how deeply the containers of a value are nested.
* `Json.IsRead` — a value is read from its printed form.
* `Json.IsDocument` — what is asked of a value that is to be read back.

## Main results

* `Json.isRead_of_fitsIn` — a printed value is read wherever it stands.
* `Json.read?_pretty` — a printed value is the document that its text is read as.
-/

namespace LintBridge

namespace Json

open Token (Stops)

variable {j : Json} {items : List Json} {fields acc : Fields} {depth indent fuel : Nat}
  {c : Char} {cs cs' cs'' rest : List Char}

/-! ### Blanks -/

theorem skipSpace_newline (indent : Nat) (rest : List Char) :
    skipSpace (newline indent ++ rest) = skipSpace rest := by
  refine List.dropWhile_append_of_pos fun c hc => ?_
  rcases List.mem_cons.mp hc with rfl | hc
  · rfl
  · rw [(List.mem_replicate.mp hc).2]
    rfl

theorem skipSpace_cons (hc : isSpace c = false) : skipSpace (c :: cs) = c :: cs := by
  rw [skipSpace, List.dropWhile_cons_of_neg (by rw [hc]; exact Bool.false_ne_true)]

/-- The blanks before a value make no difference. -/
theorem readValue?_congr (h : skipSpace cs = skipSpace cs') :
    readValue? depth fuel cs = readValue? depth fuel cs' := by
  cases fuel with
  | zero => rfl
  | succ fuel => rw [readValue?, readValue?, h]

theorem readItems?_congr (h : skipSpace cs = skipSpace cs') :
    readItems? depth fuel cs = readItems? depth fuel cs' := by
  cases fuel with
  | zero => rfl
  | succ fuel => rw [readItems?, readItems?, readValue?_congr h]

theorem readFields?_congr (h : skipSpace cs = skipSpace cs') :
    readFields? depth fuel acc cs = readFields? depth fuel acc cs' := by
  cases fuel with
  | zero => rfl
  | succ fuel => rw [readFields?, readFields?, h]

/-! ### Strings -/

/-- **A character is read as it was written**, in one step. -/
theorem readString?_writes {acc written : List Char} (h : Escape.Writes c written) :
    readString? acc (fuel + 1) (written ++ rest) = readString? (c :: acc) fuel rest := by
  have hquote : Escape.backslash ≠ Escape.quote := by decide
  rw [readString?.eq_def]
  cases h with
  | letter hl h =>
    simp only [List.cons_append, List.nil_append, if_neg hquote, if_true, h, Option.bind_eq_bind,
      Option.bind_some]
  | number h =>
    simp only [List.cons_append, if_neg hquote, if_true, h rest, Option.bind_eq_bind,
      Option.bind_some]
  | self hquote hbackslash hcontrol =>
    simp only [List.singleton_append, if_neg hquote, if_neg hbackslash, if_neg hcontrol]

theorem readString?_flatMap {acc : List Char} (hfuel : cs.length < fuel) :
    readString? acc fuel (cs.flatMap Escape.write ++ Escape.quote :: rest) =
      some (String.ofList (acc.reverse ++ cs), rest) := by
  induction cs generalizing acc fuel with
  | nil =>
    obtain ⟨fuel, rfl⟩ := Nat.exists_eq_add_one_of_ne_zero (Nat.ne_zero_of_lt hfuel)
    rw [List.flatMap_nil, List.nil_append, List.append_nil, readString?.eq_def]
    exact if_pos rfl
  | cons c cs ih =>
    obtain ⟨fuel, rfl⟩ := Nat.exists_eq_add_one_of_ne_zero (Nat.ne_zero_of_lt hfuel)
    rw [List.flatMap_cons, List.append_assoc, readString?_writes (Escape.writes_write c),
      ih (Nat.lt_of_succ_lt_succ hfuel), List.reverse_cons, List.append_assoc,
      List.singleton_append]

/-- **A string is read as it was written**, after its opening quote and up to its closing one. -/
theorem readString?_string (s : String) (rest : List Char) :
    let written := s.toList.flatMap Escape.write ++ Escape.quote :: rest
    readString? [] (written.length + 1) written = some (s, rest) := by
  have hlength := Escape.length_le_length_flatMap_write s.toList
  dsimp only
  rw [readString?_flatMap (by rw [List.length_append]; omega), List.reverse_nil, List.nil_append,
    String.ofList_toList]

theorem writeAll_append (cs rest : List Char) : Escape.writeAll cs ++ rest =
    Escape.quote :: (cs.flatMap Escape.write ++ Escape.quote :: rest) := by
  rw [Escape.writeAll, List.cons_append, List.cons_append, List.append_assoc,
    List.singleton_append]

/-! ### Values -/

/-- No more than `n` containers are nested in one another. -/
inductive FitsIn : (n : Nat) → Json → Prop where
  | single {n : Nat} {j : Json} (h : IsSingle j) : FitsIn n j
  | arr {n : Nat} {items : List Json} (h : ∀ j ∈ items, FitsIn n j) : FitsIn (n + 1) (.arr items)
  | obj {n : Nat} {fields : Fields} (h : ∀ p ∈ fields, FitsIn n p.2) :
      FitsIn (n + 1) (.obj fields)

/-- A printed value is read up to where it ends, if a comma or a line break follows and a step may
be taken for each character of it. At most `depth` containers may contain it. -/
def IsRead (depth : Nat) (j : Json) : Prop :=
  ∀ (indent fuel : Nat) (rest : List Char), Stops rest → (prettyChars indent j).length ≤ fuel →
    readValue? depth fuel (prettyChars indent j ++ rest) = some (j, rest)

theorem isSpace_of_sign (hc : c = '-' ∨ Decimal.isDigit c = true) : isSpace c = false := by
  have hne := @Token.ne_of_sign c
  simp only [isSpace, Bool.or_eq_false_iff, decide_eq_false_iff_not]
  exact ⟨⟨⟨hne hc (by decide), hne hc (by decide)⟩, hne hc (by decide)⟩, hne hc (by decide)⟩

/-- A printed value begins with neither a blank nor a closing bracket. -/
theorem prettyChars_eq_cons (indent : Nat) (hwhole : IsWhole j) :
    ∃ c cs, prettyChars indent j = c :: cs ∧ isSpace c = false ∧ c ≠ ']' := by
  cases j with
  | null => exact ⟨_, _, rfl, by decide, by decide⟩
  | bool b => cases b <;> exact ⟨_, _, rfl, by decide, by decide⟩
  | int n =>
    obtain ⟨c, cs, htext, hc⟩ := Token.intText_eq_cons n
    exact ⟨c, cs, htext, isSpace_of_sign hc, Token.ne_of_sign hc (by decide)⟩
  | float d => exact absurd hwhole id
  | str s => exact ⟨_, _, rfl, by decide, by decide⟩
  | arr items => cases items <;> exact ⟨_, _, rfl, by decide, by decide⟩
  | obj fields => cases fields <;> exact ⟨_, _, rfl, by decide, by decide⟩

/-- A printed value has characters, so the reader takes a step. -/
theorem isRead_of_succ (hwhole : IsWhole j)
    (h : ∀ (indent fuel : Nat) (rest : List Char), Stops rest →
      (prettyChars indent j).length ≤ fuel + 1 →
      readValue? depth (fuel + 1) (prettyChars indent j ++ rest) = some (j, rest)) :
    IsRead depth j := by
  intro indent fuel rest hstops hfuel
  obtain ⟨c, cs, htext, -, -⟩ := prettyChars_eq_cons indent hwhole
  have hpos : fuel ≠ 0 := by
    rw [htext, List.length_cons] at hfuel
    omega
  obtain ⟨fuel, rfl⟩ := Nat.exists_eq_add_one_of_ne_zero hpos
  exact h indent fuel rest hstops hfuel

theorem readValue?_string (s : String) (rest : List Char) :
    readValue? depth (fuel + 1) (Escape.writeAll s.toList ++ rest) = some (.str s, rest) := by
  rw [writeAll_append, readValue?, skipSpace_cons (by decide)]
  simp only [readString?_string]
  rfl

theorem readValue?_intText {n : Int} (hwhole : IsWhole (.int n)) (hstops : Stops rest) :
    readValue? depth (fuel + 1) (intText n ++ rest) = some (.int n, rest) := by
  have hscan := Token.scan?_intText n hstops
  obtain ⟨c, cs, htext, hc⟩ := Token.intText_eq_cons n
  rw [htext, List.cons_append] at hscan ⊢
  rw [readValue?, skipSpace_cons (isSpace_of_sign hc)]
  dsimp only
  rw [if_neg (Token.ne_of_sign hc (by decide)), if_neg (Token.ne_of_sign hc (by decide)),
    if_neg (Token.ne_of_sign hc (by decide)), if_neg (Token.ne_of_sign hc (by decide)),
    if_neg (Token.ne_of_sign hc (by decide)), if_neg (Token.ne_of_sign hc (by decide)), hscan]
  simp only [Option.bind_eq_bind, Option.bind_some, Token.value?_digits hwhole.1 hwhole.2]

/-- The line break and the indentation before a value are skipped. -/
theorem IsRead.line (hj : IsRead depth j) (hstops : Stops rest)
    (hfuel : (prettyChars indent j).length ≤ fuel) :
    readValue? depth fuel (newline indent ++ (prettyChars indent j ++ rest)) = some (j, rest) := by
  rw [readValue?_congr (skipSpace_newline indent _)]
  exact hj indent fuel rest hstops hfuel

/-- The blank before the value of a field is skipped. -/
theorem IsRead.space (hj : IsRead depth j) (hstops : Stops rest)
    (hfuel : (prettyChars indent j).length ≤ fuel) :
    readValue? depth fuel (' ' :: (prettyChars indent j ++ rest)) = some (j, rest) := by
  have hskip : skipSpace (' ' :: (prettyChars indent j ++ rest)) =
    skipSpace (prettyChars indent j ++ rest) := rfl
  rw [readValue?_congr hskip]
  exact hj indent fuel rest hstops hfuel

/-! ### Items -/

theorem readItems?_last (hvalue : readValue? depth fuel cs = some (j, cs'))
    (hclose : skipSpace cs' = ']' :: rest) :
    readItems? depth (fuel + 1) cs = some ([j], rest) := by
  simp only [readItems?, hvalue, Option.bind_eq_bind, Option.bind_some, hclose]

theorem readItems?_comma (hvalue : readValue? depth fuel cs = some (j, cs'))
    (hcomma : skipSpace cs' = ',' :: rest) :
    readItems? depth (fuel + 1) cs =
      (readItems? depth fuel rest).map fun (js, rest) => (j :: js, rest) := by
  simp only [readItems?, hvalue, Option.bind_eq_bind, Option.bind_some, hcomma]

/-- After the last item comes the closing bracket. -/
theorem skipSpace_prettyItems_nil (indent : Nat) (rest : List Char) :
    skipSpace (prettyItems indent [] ++ rest) = ']' :: rest := by
  rw [prettyItems, List.append_assoc, skipSpace_newline]
  rfl

/-- After any other item comes a comma, and the next item on a line of its own. -/
theorem skipSpace_prettyItems_cons (indent : Nat) (j : Json) (items : List Json)
    (rest : List Char) : skipSpace (prettyItems indent (j :: items) ++ rest) =
      ',' :: (newline (indent + 1) ++
        (prettyChars (indent + 1) j ++ (prettyItems indent items ++ rest))) := by
  rw [prettyItems, List.cons_append, List.append_assoc, List.append_assoc]
  rfl

/-- The first item, on a line of its own, and those after it. One step goes to each item, and the
steps that are left are enough for the value of the item. -/
theorem readItems?_line (hj : IsRead depth j) (hitems : ∀ k ∈ items, IsRead depth k)
    (hfuel : (prettyChars (indent + 1) j).length + (prettyItems indent items).length < fuel) :
    readItems? depth fuel (newline (indent + 1) ++
        (prettyChars (indent + 1) j ++ (prettyItems indent items ++ rest))) =
      some (j :: items, rest) := by
  induction items generalizing j fuel with
  | nil =>
    obtain ⟨fuel, rfl⟩ := Nat.exists_eq_add_one_of_ne_zero (Nat.ne_zero_of_lt hfuel)
    exact readItems?_last (hj.line (stops_prettyItems indent [] rest) (by omega))
      (skipSpace_prettyItems_nil indent rest)
  | cons k items ih =>
    obtain ⟨fuel, rfl⟩ := Nat.exists_eq_add_one_of_ne_zero (Nat.ne_zero_of_lt hfuel)
    obtain ⟨hk, hlater⟩ := List.forall_mem_cons.mp hitems
    rw [prettyItems, List.length_cons, List.length_append, List.length_append] at hfuel
    rw [readItems?_comma (hj.line (stops_prettyItems indent (k :: items) rest) (by omega))
      (skipSpace_prettyItems_cons indent k items rest), ih hk hlater (by omega), Option.map_some]

/-! ### Fields -/

theorem readFields?_last {key : String}
    (hkey : skipSpace cs = Escape.writeAll key.toList ++ ':' :: cs')
    (hvalue : readValue? depth fuel cs' = some (j, cs''))
    (hclose : skipSpace cs'' = closeBrace :: rest) :
    readFields? depth (fuel + 1) acc cs = some (acc.insert key j, rest) := by
  rw [writeAll_append] at hkey
  have hcolon : skipSpace (':' :: cs') = ':' :: cs' := rfl
  simp only [readFields?, hkey, if_true, readString?_string, hcolon, hvalue, hclose,
    Option.bind_eq_bind, Option.bind_some]
  rfl

theorem readFields?_comma {key : String}
    (hkey : skipSpace cs = Escape.writeAll key.toList ++ ':' :: cs')
    (hvalue : readValue? depth fuel cs' = some (j, cs''))
    (hcomma : skipSpace cs'' = ',' :: rest) :
    readFields? depth (fuel + 1) acc cs = readFields? depth fuel (acc.insert key j) rest := by
  rw [writeAll_append] at hkey
  have hcolon : skipSpace (':' :: cs') = ':' :: cs' := rfl
  simp only [readFields?, hkey, if_true, readString?_string, hcolon, hvalue, hcomma,
    Option.bind_eq_bind, Option.bind_some]

/-- The name of a field stands on a line of its own. -/
theorem skipSpace_fieldLine (key : String) (indent : Nat) (rest : List Char) :
    skipSpace (newline indent ++ (Escape.writeAll key.toList ++ rest)) =
      Escape.writeAll key.toList ++ rest := by
  rw [skipSpace_newline, writeAll_append, skipSpace_cons (by decide)]

/-- After the last field comes the closing brace. -/
theorem skipSpace_prettyFields_nil (indent : Nat) (rest : List Char) :
    skipSpace (prettyFields indent [] ++ rest) = closeBrace :: rest := by
  rw [prettyFields, List.append_assoc, skipSpace_newline]
  rfl

/-- After any other field comes a comma, and the next field on a line of its own. -/
theorem skipSpace_prettyFields_cons (indent : Nat) (p : String × Json) (fields : Fields)
    (rest : List Char) : skipSpace (prettyFields indent (p :: fields) ++ rest) =
      ',' :: (newline (indent + 1) ++ (Escape.writeAll p.1.toList ++ ':' :: ' ' ::
        (prettyChars (indent + 1) p.2 ++ (prettyFields indent fields ++ rest)))) := by
  simp only [prettyFields, List.cons_append, List.append_assoc]
  rfl

/-- The first field, on a line of its own, and those after it. -/
theorem readFields?_line {key : String} (hj : IsRead depth j)
    (hfields : ∀ p ∈ fields, IsRead depth p.2)
    (hfuel : (prettyChars (indent + 1) j).length + (prettyFields indent fields).length < fuel) :
    readFields? depth fuel acc (newline (indent + 1) ++ (Escape.writeAll key.toList ++
        ':' :: ' ' :: (prettyChars (indent + 1) j ++ (prettyFields indent fields ++ rest)))) =
      some (acc.insertAll ((key, j) :: fields), rest) := by
  induction fields generalizing key j fuel acc with
  | nil =>
    obtain ⟨fuel, rfl⟩ := Nat.exists_eq_add_one_of_ne_zero (Nat.ne_zero_of_lt hfuel)
    exact readFields?_last (skipSpace_fieldLine key _ _)
      (hj.space (stops_prettyFields indent [] rest) (by omega))
      (skipSpace_prettyFields_nil indent rest)
  | cons p fields ih =>
    obtain ⟨fuel, rfl⟩ := Nat.exists_eq_add_one_of_ne_zero (Nat.ne_zero_of_lt hfuel)
    obtain ⟨hp, hlater⟩ := List.forall_mem_cons.mp hfields
    rw [prettyFields, List.length_cons, List.length_append, List.length_append, List.length_cons,
      List.length_cons, List.length_append] at hfuel
    rw [readFields?_comma (skipSpace_fieldLine key _ _)
      (hj.space (stops_prettyFields indent (p :: fields) rest) (by omega))
      (skipSpace_prettyFields_cons indent p fields rest), ih hp hlater (by omega)]
    rfl

/-! ### Containers -/

theorem skipSpace_skipSpace (cs : List Char) : skipSpace (skipSpace cs) = skipSpace cs :=
  List.dropWhile_idempotent ..

/-- Items follow a bracket that is not closed at once. -/
theorem readValue?_openBracket (hopen : (skipSpace cs).head? ≠ some ']')
    (hitems : readItems? (depth + 1) fuel cs = some (items, rest)) :
    readValue? (depth + 2) (fuel + 1) ('[' :: cs) = some (.arr items, rest) := by
  have hbrace : '[' ≠ '\x7b' := by decide
  have hdepth : ¬ depth + 2 ≤ 1 := by omega
  have hless : depth + 2 - 1 = depth + 1 := rfl
  rw [← readItems?_congr (skipSpace_skipSpace cs)] at hitems
  rw [readValue?, skipSpace_cons (by decide)]
  simp only [if_neg hbrace, if_true, if_neg hdepth, hless]
  split
  · next heq => exact absurd (congrArg List.head? heq) hopen
  · rw [hitems, Option.map_some]

/-- Fields follow a brace that is not closed at once. -/
theorem readValue?_openBrace (hopen : (skipSpace cs).head? ≠ some closeBrace)
    (hfields : readFields? (depth + 1) fuel [] cs = some (fields, rest)) :
    readValue? (depth + 2) (fuel + 1) (openBrace :: cs) = some (.obj fields, rest) := by
  have hdepth : ¬ depth + 2 ≤ 1 := by omega
  have hless : depth + 2 - 1 = depth + 1 := rfl
  rw [← readFields?_congr (skipSpace_skipSpace cs)] at hfields
  rw [readValue?, skipSpace_cons (by decide)]
  simp only [openBrace, if_true, if_neg hdepth, hless]
  split
  · next c cs' heq =>
    have hc : c ≠ '\x7d' := fun h => hopen (by rw [heq, h]; rfl)
    rw [if_neg hc, ← heq, hfields, Option.map_some]
  · next heq =>
    rw [heq] at hfields
    cases fuel <;> cases hfields

/-! ### Nesting -/

theorem isRead_single (hsingle : IsSingle j) (hwhole : IsWhole j) : IsRead depth j := by
  refine isRead_of_succ hwhole fun indent fuel rest hstops _ => ?_
  cases j with
  | null => rfl
  | bool b => cases b <;> rfl
  | int n => exact readValue?_intText hwhole hstops
  | float d => exact absurd hwhole id
  | str s => exact readValue?_string s rest
  | arr items => exact absurd hsingle id
  | obj fields => exact absurd hsingle id

theorem isRead_arr (hwhole : ∀ j ∈ items, IsWhole j) (hitems : ∀ j ∈ items, IsRead (depth + 1) j) :
    IsRead (depth + 2) (.arr items) := by
  refine isRead_of_succ trivial fun indent fuel rest _ hfuel => ?_
  cases items with
  | nil => rfl
  | cons j items =>
    obtain ⟨hj, hlater⟩ := List.forall_mem_cons.mp hitems
    obtain ⟨c, cs, htext, hspace, hclose⟩ :=
      prettyChars_eq_cons (indent + 1) (hwhole j List.mem_cons_self)
    rw [prettyChars, List.length_cons, List.length_append, List.length_append] at hfuel
    rw [prettyChars, List.cons_append, List.append_assoc, List.append_assoc]
    -- The line break is a character of its own, for which the reader takes no step.
    have hline : (newline (indent + 1)).length ≠ 0 := Nat.succ_ne_zero _
    refine readValue?_openBracket ?_ (readItems?_line hj hlater (by omega))
    rw [skipSpace_newline, htext, List.cons_append, skipSpace_cons hspace]
    exact fun h => hclose (Option.some.inj h)

theorem isRead_obj (hascending : fields.Ascending)
    (hfields : ∀ p ∈ fields, IsRead (depth + 1) p.2) : IsRead (depth + 2) (.obj fields) := by
  refine isRead_of_succ trivial fun indent fuel rest _ hfuel => ?_
  cases fields with
  | nil => rfl
  | cons p fields =>
    obtain ⟨hp, hlater⟩ := List.forall_mem_cons.mp hfields
    rw [prettyChars, List.length_cons, List.length_append, List.length_append, List.length_cons,
      List.length_cons, List.length_append] at hfuel
    simp only [prettyChars, List.cons_append, List.append_assoc]
    refine readValue?_openBrace ?_ ?_
    · rw [skipSpace_fieldLine, writeAll_append]
      exact (by decide : some Escape.quote ≠ some closeBrace)
    · rw [readFields?_line hp hlater (by omega), Fields.insertAll_eq hascending]

/-- **A printed value is read wherever it stands**, if its numbers are whole, its fields are in
order and its containers are not nested too deeply. -/
theorem isRead_of_fitsIn {n : Nat} (hwhole : All IsWhole j) (hsorted : All IsSorted j)
    (hfits : FitsIn n j) : IsRead (n + 1) j := by
  induction hfits with
  | single hsingle => exact isRead_single hsingle hwhole.self
  | arr _ ih =>
    have hitems := (all_arr.mp hwhole).2
    exact isRead_arr (fun j hj => (hitems j hj).self)
      fun j hj => ih j hj (hitems j hj) ((all_arr.mp hsorted).2 j hj)
  | obj _ ih =>
    exact isRead_obj hsorted.self
      fun p hp => ih p hp ((all_obj.mp hwhole).2 p hp) ((all_obj.mp hsorted).2 p hp)

/-! ### Documents -/

/-- The conditions under which a printed value is read back: numbers are whole, fields are in order,
and no more than `n` containers are nested in one another. -/
structure IsDocument (n : Nat) (j : Json) : Prop where
  whole : All IsWhole j
  sorted : All IsSorted j
  fits : FitsIn n j

namespace IsDocument

variable {n : Nat}

theorem single (hsingle : IsSingle j) (hwhole : IsWhole j) : IsDocument n j :=
  ⟨hsingle.all hwhole, hsingle.all_isSorted, .single hsingle⟩

theorem arr (h : ∀ j ∈ items, IsDocument n j) : IsDocument (n + 1) (.arr items) where
  whole := all_arr.mpr ⟨trivial, fun j hj => (h j hj).whole⟩
  sorted := all_arr.mpr ⟨trivial, fun j hj => (h j hj).sorted⟩
  fits := .arr fun j hj => (h j hj).fits

theorem obj (hascending : fields.Ascending) (h : ∀ p ∈ fields, IsDocument n p.2) :
    IsDocument (n + 1) (.obj fields) where
  whole := all_obj.mpr ⟨trivial, fun p hp => (h p hp).whole⟩
  sorted := all_obj.mpr ⟨hascending, fun p hp => (h p hp).sorted⟩
  fits := .obj fun p hp => (h p hp).fits

/-- It does not matter in which order the fields are given. -/
theorem ofFields (h : ∀ p ∈ fields, IsDocument n p.2) : IsDocument (n + 1) (ofFields fields) := by
  have hnone : Fields.Ascending [] := List.Pairwise.nil
  refine obj (hnone.insertAll fields) fun p hp => ?_
  rcases Fields.mem_insertAll hp with hp | hp
  · exact absurd hp List.not_mem_nil
  · exact h p hp

theorem text (s : String) : IsDocument n (.str s) := single trivial trivial

theorem text? (s : Option String) : IsDocument n (ofText? s) := by
  cases s with
  | none => exact single trivial trivial
  | some s => exact text s

theorem count {k : Nat} (h : k ≤ Decimal.maxLong) : IsDocument n (ofNat k) :=
  single trivial ⟨by simp only [Decimal.minLong]; omega, Int.ofNat_le.mpr h⟩

end IsDocument

/-- **A printed value is the document that its text is read as**, also with a line break at the end
of the text. -/
theorem read?_pretty (h : IsDocument 127 j) : read? (j.pretty ++ "\n") = some j := by
  have hread := isRead_of_fitsIn h.whole h.sorted h.fits 0
    (2 * (prettyChars 0 j ++ newline 0).length + 2) (newline 0) (stops_newline 0 [])
    (by rw [List.length_append]; omega)
  rw [read?, toList_pretty]
  simp only [hread]
  rfl

end Json

end LintBridge
