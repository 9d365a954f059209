import LintBridge.Proofs.Json.Tokens

/-!
# Printed values read as settings files

The reader of settings files takes much that is never printed, but a printed value has one reading.
Its tokens are put together again as they were taken apart (`Json.IsTaken`): commas stand where the
reader looks for them, and the fields of an object, inserted one after another, stand in the order
in which they were printed. Conversely, whatever the reader yields has its fields in order
(`Json.yieldsSorted`), so what was read once can be printed and read again.

## Main definitions

* `Json.IsTaken` — the reader takes a value from its tokens.
* `Json.YieldsSorted` — what the readers yield has its fields in order.

## Main results

* `Json.readRelaxed?_pretty` — a printed value is read back.
* `Json.isSorted_of_readRelaxed?` — what was read has its fields in the order of their keys.
-/

namespace LintBridge

namespace Json

variable {j : Json} {items : List Json} {fields acc : Fields} {fuel : Nat} {rest ts : List Token}

/-! ### From tokens to values -/

/-- The reader takes a value from its tokens and leaves what follows, if it may take a step for each
token. -/
def IsTaken (j : Json) : Prop :=
  ∀ (fuel : Nat) (rest : List Token), (tokens j).length ≤ fuel →
    takeValue? fuel (tokens j ++ rest) = some (j, rest)

theorem length_skipComma_le (ts : List Token) : (skipComma ts).length ≤ ts.length := by
  unfold skipComma
  split
  · exact Nat.le_succ _
  · exact Nat.le_refl _

theorem skipComma_append (hne : ts ≠ []) : skipComma (ts ++ rest) = skipComma ts ++ rest := by
  cases ts with
  | nil => exact absurd rfl hne
  | cons t ts => cases t <;> rfl

theorem length_laterItems_pos (items : List Json) : 0 < (laterItems items).length := by
  cases items <;> simp [laterItems]

theorem length_laterFields_pos (fields : Fields) : 0 < (laterFields fields).length := by
  cases fields <;> simp [laterFields]

/-- The first token of a value closes nothing. -/
theorem tokens_eq_cons (j : Json) : ∃ t ts, tokens j = t :: ts ∧ t ≠ .closeBracket := by
  cases j with
  | _ => exact ⟨_, _, rfl, Token.noConfusion⟩

theorem length_tokens_pos (j : Json) : 0 < (tokens j).length := by
  obtain ⟨t, ts, htokens, -⟩ := tokens_eq_cons j
  rw [htokens]
  exact Nat.succ_pos _

/-- A value has tokens, so the reader takes a step. -/
theorem isTaken_of_succ
    (h : ∀ (fuel : Nat) (rest : List Token), (tokens j).length ≤ fuel + 1 →
      takeValue? (fuel + 1) (tokens j ++ rest) = some (j, rest)) : IsTaken j := by
  intro fuel rest hfuel
  have hpos := length_tokens_pos j
  obtain ⟨fuel, rfl⟩ := Nat.exists_eq_add_one_of_ne_zero (Nat.ne_zero_of_lt (by omega : 0 < fuel))
  exact h fuel rest hfuel

theorem takeItems?_tokens (hitems : ∀ j ∈ items, IsTaken j)
    (hfuel : (skipComma (laterItems items)).length ≤ fuel) :
    takeItems? fuel (skipComma (laterItems items) ++ rest) = some (items, rest) := by
  induction items generalizing fuel with
  | nil =>
    obtain ⟨fuel, rfl⟩ := Nat.exists_eq_add_one_of_ne_zero (Nat.ne_zero_of_lt hfuel)
    rfl
  | cons j items ih =>
    obtain ⟨hj, hitems⟩ := List.forall_mem_cons.mp hitems
    have hlater := length_laterItems_pos items
    have hskip := length_skipComma_le (laterItems items)
    rw [laterItems, skipComma, List.length_append] at hfuel
    obtain ⟨fuel, rfl⟩ := Nat.exists_eq_add_one_of_ne_zero (Nat.ne_zero_of_lt (by omega : 0 < fuel))
    have hrest : takeItems? fuel (skipComma (laterItems items ++ rest)) = some (items, rest) := by
      rw [skipComma_append (List.ne_nil_of_length_pos hlater)]
      exact ih hitems (by have := length_tokens_pos j; omega)
    have hvalue := hj fuel (laterItems items ++ rest) (by omega)
    obtain ⟨t, ts, htokens, hclose⟩ := tokens_eq_cons j
    rw [laterItems, skipComma, List.append_assoc]
    rw [htokens, List.cons_append] at hvalue ⊢
    rw [takeItems?, hvalue]
    · simp only [Option.bind_eq_bind, Option.bind_some, hrest]
    · exact fun _ h => hclose (List.cons.inj h).1

theorem takeFields?_tokens (hfields : ∀ p ∈ fields, IsTaken p.2)
    (hfuel : (skipComma (laterFields fields)).length ≤ fuel) :
    takeFields? fuel acc (skipComma (laterFields fields) ++ rest) =
      some (acc.insertAll fields, rest) := by
  induction fields generalizing fuel acc with
  | nil =>
    obtain ⟨fuel, rfl⟩ := Nat.exists_eq_add_one_of_ne_zero (Nat.ne_zero_of_lt hfuel)
    rfl
  | cons p fields ih =>
    obtain ⟨hp, hfields⟩ := List.forall_mem_cons.mp hfields
    have hlater := length_laterFields_pos fields
    have hskip := length_skipComma_le (laterFields fields)
    rw [laterFields, skipComma, List.length_cons, List.length_cons, List.length_append] at hfuel
    obtain ⟨fuel, rfl⟩ := Nat.exists_eq_add_one_of_ne_zero (Nat.ne_zero_of_lt (by omega : 0 < fuel))
    have hrest : takeFields? fuel (acc.insert p.1 p.2) (skipComma (laterFields fields ++ rest)) =
        some (acc.insertAll (p :: fields), rest) := by
      rw [skipComma_append (List.ne_nil_of_length_pos hlater)]
      exact ih hfields (by omega)
    have hvalue := hp fuel (laterFields fields ++ rest) (by omega)
    rw [laterFields, skipComma, List.cons_append, List.cons_append, List.append_assoc, takeFields?]
    · simp only [Token.fieldName?, Option.bind_eq_bind, Option.bind_some, hvalue, hrest]
    · exact Token.noConfusion

/-- **The tokens of a value are put together to that value**, if its numbers are whole and its
fields are in order. -/
theorem isTaken_of_isSorted (hwhole : All IsWhole j) (hsorted : All IsSorted j) : IsTaken j := by
  induction j using inductionOn with
  | null => exact isTaken_of_succ fun _ _ _ => rfl
  | bool b => exact isTaken_of_succ fun _ _ _ => rfl
  | int n =>
    refine isTaken_of_succ fun fuel rest _ => ?_
    have hvalue := Token.numeralValue_intText hwhole.self.1 hwhole.self.2
    rw [tokens, List.singleton_append, takeValue?, Token.value?, hvalue, Option.map_some]
    · exact Token.noConfusion
    · exact Token.noConfusion
  | float d => exact absurd hwhole.self id
  | str s => exact isTaken_of_succ fun _ _ _ => rfl
  | arr items ih =>
    refine isTaken_of_succ fun fuel rest hfuel => ?_
    have hitems : ∀ j ∈ items, IsTaken j := fun j hj =>
      ih j hj ((all_arr.mp hwhole).2 j hj) ((all_arr.mp hsorted).2 j hj)
    rw [tokens, List.cons_append, takeValue?, takeItems?_tokens hitems
      (Nat.le_of_succ_le_succ hfuel)]
    rfl
  | obj fields ih =>
    refine isTaken_of_succ fun fuel rest hfuel => ?_
    have hfields : ∀ p ∈ fields, IsTaken p.2 := fun p hp =>
      ih p hp ((all_obj.mp hwhole).2 p hp) ((all_obj.mp hsorted).2 p hp)
    rw [tokens, List.cons_append, takeValue?, takeFields?_tokens hfields
      (Nat.le_of_succ_le_succ hfuel), Fields.insertAll_eq hsorted.self]
    rfl

/-! ### Texts -/

/-- **A printed value is read back**, also with a line break at the end of the text. -/
theorem readRelaxed?_pretty (hwhole : All IsWhole j) (hsorted : All IsSorted j) :
    readRelaxed? (j.pretty ++ "\n") = some (some j) := by
  have hline : Token.Lexes (newline 0) [] := Token.Lexes.nil.blank (by decide)
  have hlexes : Token.readAll? (prettyChars 0 j ++ newline 0) = some (tokens j ++ []) :=
    isLexed_of_isWhole hwhole 0 (newline 0) [] (stops_newline 0 []) hline
  have htaken := isTaken_of_isSorted hwhole hsorted (2 * (tokens j).length) [] (by omega)
  rw [List.append_nil] at hlexes htaken
  rw [readRelaxed?, toList_pretty, hlexes]
  obtain ⟨t, ts, htokens, -⟩ := tokens_eq_cons j
  rw [htokens] at htaken ⊢
  simp only [htaken]

/-! ### From texts to values -/

theorem isSingle_of_numeral {x : Numeral} (h : x.value? = some j) : IsSingle j := by
  rw [Numeral.value?] at h
  split at h
  · cases h
    trivial
  split at h
  · cases h
    trivial
  · obtain ⟨d, -, rfl⟩ := Option.map_eq_some_iff.mp h
    trivial

theorem isSingle_decimalValue (written : List Char) :
    IsSingle (Token.numeralValue.decimalValue written) := by
  unfold Token.numeralValue.decimalValue
  dsimp only
  generalize hvalue : Numeral.ofText? _ = value?
  cases value? with
  | none => trivial
  | some j =>
    rw [Numeral.ofText?] at hvalue
    split at hvalue
    · exact isSingle_of_numeral hvalue
    · cases hvalue

/-- A token denotes a value with no others in it. -/
theorem isSingle_of_value? {token : Token} (h : token.value? = some j) : IsSingle j := by
  cases token with
  | null => cases h; trivial
  | bool b => cases h; trivial
  | text s => cases h; trivial
  | numeral written =>
    cases h
    rw [Token.numeralValue.eq_def]
    split
    · split
      · dsimp only
        split <;> trivial
      · exact isSingle_decimalValue written
    · exact isSingle_decimalValue written
  | _ => cases h

/-- What the readers yield with so many steps has its fields in the order of their keys, if that is
so of the fields that were read before. -/
structure YieldsSorted (fuel : Nat) : Prop where
  value : ∀ {ts : List Token} {j : Json} {rest : List Token},
    takeValue? fuel ts = some (j, rest) → All IsSorted j
  items : ∀ {ts : List Token} {js : List Json} {rest : List Token},
    takeItems? fuel ts = some (js, rest) → ∀ j ∈ js, All IsSorted j
  fields : ∀ {acc : Fields} {ts : List Token} {fs : Fields} {rest : List Token},
    All IsSorted (.obj acc) → takeFields? fuel acc ts = some (fs, rest) → All IsSorted (.obj fs)

theorem YieldsSorted.value_succ (ih : YieldsSorted fuel)
    (h : takeValue? (fuel + 1) ts = some (j, rest)) : All IsSorted j := by
  rw [takeValue?.eq_def] at h
  split at h
  · cases h
  · cases h
  · next hfuel =>
    obtain rfl := Nat.succ.inj hfuel
    obtain ⟨⟨fs, rest'⟩, hfields, heq⟩ := Option.map_eq_some_iff.mp h
    obtain ⟨rfl, rfl⟩ := Prod.mk.inj heq
    exact ih.fields (all_obj.mpr ⟨List.Pairwise.nil, by simp⟩) hfields
  · next hfuel =>
    obtain rfl := Nat.succ.inj hfuel
    obtain ⟨⟨js, rest'⟩, hitems, heq⟩ := Option.map_eq_some_iff.mp h
    obtain ⟨rfl, rfl⟩ := Prod.mk.inj heq
    exact all_arr.mpr ⟨trivial, ih.items hitems⟩
  · obtain ⟨k, hvalue, heq⟩ := Option.map_eq_some_iff.mp h
    obtain ⟨rfl, rfl⟩ := Prod.mk.inj heq
    exact (isSingle_of_value? hvalue).all_isSorted

theorem YieldsSorted.items_succ (ih : YieldsSorted fuel)
    (h : takeItems? (fuel + 1) ts = some (items, rest)) : ∀ j ∈ items, All IsSorted j := by
  rw [takeItems?.eq_def] at h
  split at h
  · cases h
  · cases h
    exact fun _ hj => absurd hj List.not_mem_nil
  · next hfuel _ =>
    obtain rfl := Nat.succ.inj hfuel
    obtain ⟨⟨j, rest'⟩, hvalue, h⟩ := Option.bind_eq_some_iff.mp h
    obtain ⟨⟨js, rest''⟩, hitems, h⟩ := Option.bind_eq_some_iff.mp h
    cases h
    exact List.forall_mem_cons.mpr ⟨ih.value hvalue, ih.items hitems⟩

theorem YieldsSorted.fields_succ (ih : YieldsSorted fuel) (hacc : All IsSorted (.obj acc))
    (h : takeFields? (fuel + 1) acc ts = some (fields, rest)) : All IsSorted (.obj fields) := by
  rw [takeFields?.eq_def] at h
  split at h
  · cases h
  · cases h
    exact hacc
  · next hfuel =>
    obtain rfl := Nat.succ.inj hfuel
    obtain ⟨key, -, h⟩ := Option.bind_eq_some_iff.mp h
    obtain ⟨⟨j, rest'⟩, hvalue, h⟩ := Option.bind_eq_some_iff.mp h
    exact ih.fields (hacc.insert (ih.value hvalue)) h
  · cases h

theorem yieldsSorted (fuel : Nat) : YieldsSorted fuel := by
  induction fuel with
  | zero =>
    constructor
    · rintro _ _ _ ⟨⟩
    · rintro _ _ _ ⟨⟩
    · rintro _ _ _ _ _ ⟨⟩
  | succ fuel ih => exact ⟨ih.value_succ, ih.items_succ, ih.fields_succ⟩

/-- **What was read from a text has its fields in the order of their keys.** -/
theorem isSorted_of_readRelaxed? {text : String} (h : readRelaxed? text = some (some j)) :
    All IsSorted j := by
  rw [readRelaxed?] at h
  split at h
  · cases h
  · cases h
  · split at h
    · next htake =>
      cases h
      exact (yieldsSorted _).value htake
    · cases h

end Json

end LintBridge
