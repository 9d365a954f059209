import Mathlib.Tactic.SplitIfs
import LintBridge.Proofs.Json.Fields
import LintBridge.Proofs.Json.Numeral

/-!
# The tokens of a printed value

A printed value consists of tokens with blanks between them. The reader takes them one by one, and
what it takes depends on nothing but the text up to the end of the token, if a comma or a line break
follows a value (`Json.IsLexed`). That is what follows every item and every field, so the tokens of
a container are put together from those of what it contains.

A string is read by characters. How a character can be written is told by what it takes to read it
(`Escape.Writes`), and whatever is written for a character is read in one step, as that character
(`Token.readString?_writes`).

## Main definitions

* `Escape.Writes` — how a character can be written.
* `Token.Lexes` — a text consists of some tokens.
* `Json.tokens` — the tokens of a printed value.

## Main results

* `Token.read?_string` — a string is read as it was written.
* `Json.isLexed_of_isWhole` — a printed value is read as its tokens.
-/

namespace LintBridge

/-! ### Strings -/

namespace Escape

theorem hexValue?_hexDigit {n : Nat} (h : n < 16) : hexValue? (hexDigit n) = some n := by
  revert n
  decide

/-- A control character is read from the number that its escape writes. -/
theorem unicode?_control {c : Char} (h : c.toNat < 0x20) (rest : List Char) :
    unicode? ('0' :: '0' :: hexDigit (c.toNat / 16) :: hexDigit (c.toNat % 16) :: rest) =
      some (c, rest) := by
  have hzero : hexValue? '0' = some 0 := by decide
  have hhigh := hexValue?_hexDigit (n := c.toNat / 16) (by omega)
  have hlow := hexValue?_hexDigit (n := c.toNat % 16) (by omega)
  have hnumber : ((0 * 16 + 0) * 16 + c.toNat / 16) * 16 + c.toNat % 16 = c.toNat := by omega
  simp only [unicode?, hex4?, hzero, hhigh, hlow, Option.bind_eq_bind, Option.bind_some, hnumber]
  rw [if_neg (by omega), if_neg (by omega), Char.ofNat_toNat]

/-- How `c` can be written, told by what it takes to read it. -/
inductive Writes (c : Char) : List Char → Prop where
  /-- A letter after a backslash. -/
  | letter {l : Char} (hl : l ≠ 'u') (h : simple? l = some c) : Writes c [backslash, l]
  /-- The number of the character after a backslash. -/
  | number {ds : List Char} (h : ∀ rest, unicode? (ds ++ rest) = some (c, rest)) :
      Writes c (backslash :: 'u' :: ds)
  /-- The character itself. -/
  | self (hquote : c ≠ quote) (hbackslash : c ≠ backslash) (hcontrol : ¬ c.toNat < 0x20) :
      Writes c [c]

theorem writes_write (c : Char) : Writes c (write c) := by
  unfold write
  split_ifs with hquote hbackslash hb hf hn hr ht hcontrol
  · exact .letter (by decide) (by rw [hquote]; decide)
  · exact .letter (by decide) (by rw [hbackslash]; decide)
  · exact .letter (by decide) (by rw [hb]; decide)
  · exact .letter (by decide) (by rw [hf]; decide)
  · exact .letter (by decide) (by rw [hn]; decide)
  · exact .letter (by decide) (by rw [hr]; decide)
  · exact .letter (by decide) (by rw [ht]; decide)
  · exact .number (unicode?_control hcontrol)
  · exact .self hquote hbackslash hcontrol

theorem Writes.length_pos {c : Char} {written : List Char} (h : Writes c written) :
    0 < written.length := by
  cases h with
  | _ => exact Nat.succ_pos _

theorem length_le_length_flatMap_write (cs : List Char) :
    cs.length ≤ (cs.flatMap write).length := by
  induction cs with
  | nil => exact Nat.le_refl 0
  | cons c cs ih =>
    have hc := (writes_write c).length_pos
    rw [List.flatMap_cons, List.length_append, List.length_cons]
    omega

end Escape

namespace Token

variable {acc cs rest : List Char} {fuel : Nat}

/-- What a letter after a backslash denotes, it denotes between double quotes. -/
theorem readEscape?_quote {c l : Char} (h : Escape.simple? l = some c) :
    readEscape? Escape.quote l = some c := by
  rw [readEscape?]
  split
  · next hl =>
    rcases hl with rfl | rfl
    · exact h
    · cases h
  · exact h

/-- **A character is read as it was written**, in one step. The letter after a backslash is not the
`u` that digits follow. -/
theorem readString?_writes {c : Char} {written : List Char} (h : Escape.Writes c written) :
    readString? Escape.quote acc (fuel + 1) (written ++ rest) =
      readString? Escape.quote (c :: acc) fuel rest := by
  have hquote : Escape.backslash ≠ Escape.quote := by decide
  rw [readString?.eq_def]
  cases h with
  | letter hl h =>
    simp only [List.cons_append, List.nil_append, if_neg hquote, if_true,
      readEscape?_quote h, Option.bind_eq_bind, Option.bind_some]
  | number h =>
    simp only [List.cons_append, if_neg hquote, if_true, h rest, Option.bind_eq_bind,
      Option.bind_some]
  | self hquote hbackslash _ =>
    simp only [List.singleton_append, if_neg hquote, if_neg hbackslash]

theorem readString?_flatMap (hfuel : cs.length < fuel) :
    readString? Escape.quote acc fuel (cs.flatMap Escape.write ++ Escape.quote :: rest) =
      some (String.ofList (acc.reverse ++ cs), rest) := by
  induction cs generalizing acc fuel with
  | nil =>
    cases fuel with
    | zero => exact absurd hfuel (Nat.not_lt_zero _)
    | succ fuel =>
      rw [List.flatMap_nil, List.nil_append, List.append_nil, readString?.eq_def]
      exact if_pos rfl
  | cons c cs ih =>
    cases fuel with
    | zero => exact absurd hfuel (Nat.not_lt_zero _)
    | succ fuel =>
      rw [List.flatMap_cons, List.append_assoc, readString?_writes (Escape.writes_write c),
        ih (Nat.lt_of_succ_lt_succ hfuel), List.reverse_cons, List.append_assoc,
        List.singleton_append]

/-- **A string is read as it was written**, up to its closing quote. -/
theorem read?_string (cs rest : List Char) :
    read? Escape.quote (cs.flatMap Escape.write ++ Escape.quote :: rest) =
      some (.text (String.ofList cs), rest) := by
  have hlength := Escape.length_le_length_flatMap_write cs
  have hread (cs : List Char) : read? Escape.quote cs =
      (readString? Escape.quote [] (cs.length + 1) cs).map (Prod.map .text id) := rfl
  rw [hread, readString?_flatMap (by rw [List.length_append]; omega)]
  rfl

/-! ### Names and numerals -/

theorem Stops.not_alphanumeric (h : Stops rest) : rest.head?.any isAlphanumeric = false := by
  cases rest with
  | nil => rfl
  | cons c rest =>
    have hcomma : isAlphanumeric ',' = false := by decide +kernel
    have hline : isAlphanumeric '\n' = false := by decide +kernel
    rcases h c rfl with rfl | rfl
    · rw [List.head?_cons, Option.any_some, hcomma]
    · rw [List.head?_cons, Option.any_some, hline]

/-- A name is read if no letter and no digit follows. -/
theorem afterName?_append (name : List Char) (h : Stops rest) :
    afterName? name (name ++ rest) = some rest := by
  simp [afterName?, h.not_alphanumeric]

theorem read?_true (h : Stops rest) :
    read? 't' ('r' :: 'u' :: 'e' :: rest) = some (.bool true, rest) := by
  have hread : read? 't' ('r' :: 'u' :: 'e' :: rest) = readName? (['t', 'r', 'u', 'e'] ++ rest) :=
    rfl
  rw [hread, readName?, afterName?_append _ h]

theorem read?_false (h : Stops rest) :
    read? 'f' ('a' :: 'l' :: 's' :: 'e' :: rest) = some (.bool false, rest) := by
  have hread : read? 'f' ('a' :: 'l' :: 's' :: 'e' :: rest) =
    readName? (['f', 'a', 'l', 's', 'e'] ++ rest) := rfl
  have htrue : afterName? ['t', 'r', 'u', 'e'] (['f', 'a', 'l', 's', 'e'] ++ rest) = none := rfl
  rw [hread, readName?, htrue, afterName?_append _ h]

theorem read?_null (h : Stops rest) :
    read? 'n' ('u' :: 'l' :: 'l' :: rest) = some (.null, rest) := by
  have hread : read? 'n' ('u' :: 'l' :: 'l' :: rest) = readName? (['n', 'u', 'l', 'l'] ++ rest) :=
    rfl
  have htrue : afterName? ['t', 'r', 'u', 'e'] (['n', 'u', 'l', 'l'] ++ rest) = none := rfl
  have hfalse : afterName? ['f', 'a', 'l', 's', 'e'] (['n', 'u', 'l', 'l'] ++ rest) = none := rfl
  rw [hread, readName?, htrue, hfalse, afterName?_append _ h]

theorem ne_of_sign {c x : Char} (hc : c = '-' ∨ Decimal.isDigit c = true)
    (hx : ¬ (x = '-' ∨ Decimal.isDigit x = true)) : c ≠ x := by
  rintro rfl
  exact hx hc

/-- A numeral begins with a sign or a digit, which no other token begins with. -/
theorem read?_of_sign {c : Char} (hc : c = '-' ∨ Decimal.isDigit c = true) :
    read? c cs = (readNumeral? (c :: cs)).map fun (written, rest) => (.numeral written, rest) := by
  have hquote : ¬ (c = Escape.quote ∨ c = Escape.apostrophe) :=
    not_or.mpr ⟨ne_of_sign hc (by decide), ne_of_sign hc (by decide)⟩
  rw [read?, if_neg (ne_of_sign hc (by decide)), if_neg (ne_of_sign hc (by decide)),
    if_neg (ne_of_sign hc (by decide)), if_neg (ne_of_sign hc (by decide)),
    if_neg (ne_of_sign hc (by decide)), if_neg (ne_of_sign hc (by decide)), if_neg hquote,
    if_pos (.inr hc)]

theorem isBlank_of_sign {c : Char} (hc : c = '-' ∨ Decimal.isDigit c = true) :
    isBlank c = false := by
  rcases hc with rfl | hc
  · decide
  · exact Decimal.isBlank_of_isDigit hc

theorem intText_eq_cons (n : Int) :
    ∃ c cs, Json.intText n = c :: cs ∧ (c = '-' ∨ Decimal.isDigit c = true) := by
  obtain ⟨d, ds, hdigits, hd, -, -⟩ := Decimal.digits_eq_cons n.natAbs
  rw [Json.intText]
  split
  · exact ⟨_, _, rfl, .inl rfl⟩
  · exact ⟨d, ds, hdigits, .inr hd⟩

/-! ### Sequences of tokens -/

variable {ts : List Token} {token : Token} {c : Char}

/-- The text consists of the tokens. -/
def Lexes (cs : List Char) (ts : List Token) : Prop := readAll? cs = some ts

/-- What becomes of the character at the head. -/
theorem readFrom?_cons :
    readFrom? (fuel + 1) (c :: cs) =
      if isBlank c then readFrom? fuel cs
      else if c = '/' then
        match cs with
        | '/' :: rest => readFrom? fuel (skipLineComment rest)
        | '*' :: rest => (skipBlockComment? rest).bind (readFrom? fuel)
        | _ => none
      else (read? c cs).bind fun p => (readFrom? fuel p.2).map (p.1 :: ·) := by
  rw [readFrom?.eq_def]
  dsimp only
  congr 2
  cases read? c cs with
  | none => rfl
  | some p =>
    simp only [Option.bind_eq_bind, Option.bind_some]
    cases readFrom? fuel p.2 <;> rfl

/-- More steps than are needed make no difference. -/
theorem readFrom?_mono {fuel' : Nat} (h : readFrom? fuel cs = some ts) (hle : fuel ≤ fuel') :
    readFrom? fuel' cs = some ts := by
  induction fuel generalizing cs ts fuel' with
  | zero =>
    cases cs with
    | nil => cases fuel' <;> exact h
    | cons => cases h
  | succ fuel ih =>
    obtain ⟨fuel', rfl⟩ := Nat.exists_eq_add_one_of_ne_zero (Nat.ne_zero_of_lt hle)
    have hle := Nat.le_of_succ_le_succ hle
    cases cs with
    | nil => exact h
    | cons c cs =>
      rw [readFrom?_cons] at h ⊢
      by_cases hblank : isBlank c = true
      · rw [if_pos hblank] at h ⊢
        exact ih h hle
      rw [if_neg hblank] at h ⊢
      by_cases hslash : c = '/'
      · rw [if_pos hslash] at h ⊢
        split at h
        · exact ih h hle
        · obtain ⟨rest, hrest, hread⟩ := Option.bind_eq_some_iff.mp h
          exact Option.bind_eq_some_iff.mpr ⟨rest, hrest, ih hread hle⟩
        · cases h
      · rw [if_neg hslash] at h ⊢
        obtain ⟨p, htoken, hrest⟩ := Option.bind_eq_some_iff.mp h
        obtain ⟨tokens, htokens, hts⟩ := Option.map_eq_some_iff.mp hrest
        exact Option.bind_eq_some_iff.mpr
          ⟨p, htoken, Option.map_eq_some_iff.mpr ⟨tokens, ih htokens hle, hts⟩⟩

theorem Lexes.nil : Lexes [] [] := rfl

theorem Lexes.blank (hc : isBlank c = true) (h : Lexes cs ts) : Lexes (c :: cs) ts := by
  rw [Lexes, readAll?, List.length_cons, readFrom?_cons, if_pos hc]
  exact h

/-- A token may be followed by any text that consists of tokens. -/
theorem Lexes.cons (hblank : isBlank c = false) (hslash : c ≠ '/')
    (hread : read? c cs = some (token, rest)) (hle : rest.length ≤ cs.length)
    (h : Lexes rest ts) : Lexes (c :: cs) (token :: ts) := by
  rw [Lexes, readAll?, List.length_cons, readFrom?_cons, hblank, if_neg Bool.false_ne_true,
    if_neg hslash, hread, Option.bind_some, readFrom?_mono h hle, Option.map_some]

/-- A token of one character. -/
theorem Lexes.mark (hblank : isBlank c = false) (hslash : c ≠ '/')
    (hread : read? c rest = some (token, rest)) (h : Lexes rest ts) :
    Lexes (c :: rest) (token :: ts) :=
  h.cons hblank hslash hread (Nat.le_refl _)

theorem Lexes.closeBracket (h : Lexes rest ts) : Lexes (']' :: rest) (.closeBracket :: ts) :=
  h.mark (by decide) (by decide) rfl

theorem Lexes.closeBrace (h : Lexes rest ts) :
    Lexes (Json.closeBrace :: rest) (.closeBrace :: ts) :=
  h.mark (by decide) (by decide) rfl

theorem Lexes.string (s : String) (h : Lexes rest ts) :
    Lexes (Escape.writeAll s.toList ++ rest) (.text s :: ts) := by
  have hwrite : Escape.writeAll s.toList ++ rest =
      Escape.quote :: (s.toList.flatMap Escape.write ++ Escape.quote :: rest) := by
    simp [Escape.writeAll]
  have hread := read?_string s.toList rest
  rw [String.ofList_toList] at hread
  rw [hwrite]
  exact h.cons (by decide) (by decide) hread (by rw [List.length_append, List.length_cons]; omega)

theorem Lexes.wholeNumber (n : Int) (hstops : Stops rest) (h : Lexes rest ts) :
    Lexes (Json.intText n ++ rest) (.numeral (Json.intText n) :: ts) := by
  have hnumeral := readNumeral?_intText n hstops
  obtain ⟨c, cs, htext, hc⟩ := intText_eq_cons n
  rw [htext, List.cons_append] at hnumeral ⊢
  refine h.cons (isBlank_of_sign hc) (Token.ne_of_sign hc (by decide)) ?_
    (by rw [List.length_append]; omega)
  rw [read?_of_sign hc, hnumeral]
  rfl

/-- The indentation of a line is blank. -/
theorem Lexes.newline (depth : Nat) (h : Lexes rest ts) :
    Lexes (Json.newline depth ++ rest) ts := by
  have hspaces (n : Nat) : Lexes (List.replicate n ' ' ++ rest) ts := by
    induction n with
    | zero => exact h
    | succ n ih => exact ih.blank (by decide)
  exact (hspaces (2 * depth)).blank (by decide)

end Token

/-! ### Printed values -/

namespace Json

open Token (Lexes Stops)

mutual

/-- The tokens that a printed value consists of. -/
def tokens : Json → List Token
  | .null => [.null]
  | .bool b => [.bool b]
  | .int n => [.numeral (intText n)]
  | .float d => [.numeral (Shortest.text d)]
  | .str s => [.text s]
  | .arr items => .openBracket :: skipComma (laterItems items)
  | .obj fields => .openBrace :: skipComma (laterFields fields)

/-- Items that follow others, each with a comma before it, and the bracket that closes them. -/
def laterItems : List Json → List Token
  | [] => [.closeBracket]
  | j :: js => .comma :: (tokens j ++ laterItems js)

/-- Fields that follow others, each with a comma before it, and the brace that closes them. -/
def laterFields : List (String × Json) → List Token
  | [] => [.closeBrace]
  | (k, v) :: rest => .comma :: .text k :: .colon :: (tokens v ++ laterFields rest)

end

/-- A printed value is read as its tokens wherever it stands, if a comma or a line break follows. -/
def IsLexed (j : Json) : Prop :=
  ∀ (depth : Nat) (rest : List Char) (ts : List Token), Stops rest → Lexes rest ts →
    Lexes (prettyChars depth j ++ rest) (tokens j ++ ts)

variable {depth : Nat} {rest : List Char} {ts : List Token} {items : List Json} {fields : Fields}

theorem stops_newline (depth : Nat) (rest : List Char) : Stops (newline depth ++ rest) := by
  intro c hc
  cases hc
  exact .inr rfl

/-- A printed value with a line break at the end of the text. -/
theorem toList_pretty (j : Json) : (j.pretty ++ "\n").toList = prettyChars 0 j ++ newline 0 := by
  rw [String.toList_append, pretty, String.toList_ofList]
  rfl

/-- What follows an item is a comma or a line break. -/
theorem stops_prettyItems (depth : Nat) (items : List Json) (rest : List Char) :
    Stops (prettyItems depth items ++ rest) := by
  cases items with
  | nil =>
    rw [prettyItems, List.append_assoc]
    exact stops_newline depth _
  | cons j items =>
    rw [prettyItems]
    intro c hc
    cases hc
    exact .inl rfl

/-- What follows a field is a comma or a line break. -/
theorem stops_prettyFields (depth : Nat) (fields : Fields) (rest : List Char) :
    Stops (prettyFields depth fields ++ rest) := by
  cases fields with
  | nil =>
    rw [prettyFields, List.append_assoc]
    exact stops_newline depth _
  | cons p fields =>
    rw [prettyFields]
    intro c hc
    cases hc
    exact .inl rfl

/-- The first item, on a line of its own, and those after it. -/
theorem lexes_line {j : Json} (hj : IsLexed j)
    (h : Lexes (prettyItems depth items ++ rest) (laterItems items ++ ts)) :
    Lexes (newline (depth + 1) ++ (prettyChars (depth + 1) j ++ prettyItems depth items) ++ rest)
      (tokens j ++ laterItems items ++ ts) := by
  rw [List.append_assoc, List.append_assoc, List.append_assoc]
  exact (hj (depth + 1) _ _ (stops_prettyItems depth items rest) h).newline (depth + 1)

theorem lexes_prettyItems (hitems : ∀ j ∈ items, IsLexed j) (h : Lexes rest ts) :
    Lexes (prettyItems depth items ++ rest) (laterItems items ++ ts) := by
  induction items with
  | nil =>
    rw [prettyItems, List.append_assoc]
    exact h.closeBracket.newline depth
  | cons j items ih =>
    obtain ⟨hj, hitems⟩ := List.forall_mem_cons.mp hitems
    rw [prettyItems]
    exact (lexes_line hj (ih hitems)).mark (by decide) (by decide) rfl

/-- The first field, on a line of its own, and those after it. -/
theorem lexes_fieldLine {p : String × Json} (hp : IsLexed p.2)
    (h : Lexes (prettyFields depth fields ++ rest) (laterFields fields ++ ts)) :
    Lexes (newline (depth + 1) ++ (Escape.writeAll p.1.toList ++
        ':' :: ' ' :: (prettyChars (depth + 1) p.2 ++ prettyFields depth fields)) ++ rest)
      (.text p.1 :: .colon :: (tokens p.2 ++ laterFields fields) ++ ts) := by
  have hvalue := hp (depth + 1) _ _ (stops_prettyFields depth fields rest) h
  have hcolon : Lexes
      (':' :: ' ' :: (prettyChars (depth + 1) p.2 ++ (prettyFields depth fields ++ rest)))
      (.colon :: (tokens p.2 ++ (laterFields fields ++ ts))) :=
    (hvalue.blank (by decide)).mark (by decide) (by decide) rfl
  simpa only [List.append_assoc, List.cons_append] using (hcolon.string p.1).newline (depth + 1)

theorem lexes_prettyFields (hfields : ∀ p ∈ fields, IsLexed p.2) (h : Lexes rest ts) :
    Lexes (prettyFields depth fields ++ rest) (laterFields fields ++ ts) := by
  induction fields with
  | nil =>
    rw [prettyFields, List.append_assoc]
    exact h.closeBrace.newline depth
  | cons p fields ih =>
    obtain ⟨hp, hfields⟩ := List.forall_mem_cons.mp hfields
    rw [prettyFields]
    exact (lexes_fieldLine hp (ih hfields)).mark (by decide) (by decide) rfl

/-- **A printed value is read as its tokens**, if its numbers are whole. -/
theorem isLexed_of_isWhole {j : Json} (hwhole : All IsWhole j) : IsLexed j := by
  induction j using inductionOn with
  | null =>
    intro depth rest ts hstops h
    exact h.cons (by decide) (by decide) (Token.read?_null hstops) (by simp; omega)
  | bool b =>
    intro depth rest ts hstops h
    cases b with
    | false => exact h.cons (by decide) (by decide) (Token.read?_false hstops) (by simp; omega)
    | true => exact h.cons (by decide) (by decide) (Token.read?_true hstops) (by simp; omega)
  | int n =>
    intro depth rest ts hstops h
    exact h.wholeNumber n hstops
  | float d => exact absurd hwhole.self id
  | str s =>
    intro depth rest ts hstops h
    exact h.string s
  | arr items ih =>
    intro depth rest ts hstops h
    have hitems := (all_arr.mp hwhole).2
    cases items with
    | nil => exact h.closeBracket.mark (by decide) (by decide) rfl
    | cons j items =>
      obtain ⟨hj, hlater⟩ := List.forall_mem_cons.mp fun k hk => ih k hk (hitems k hk)
      exact (lexes_line hj (lexes_prettyItems hlater h)).mark (by decide) (by decide) rfl
  | obj fields ih =>
    intro depth rest ts hstops h
    have hfields := (all_obj.mp hwhole).2
    cases fields with
    | nil => exact h.closeBrace.mark (by decide) (by decide) rfl
    | cons p fields =>
      obtain ⟨hp, hlater⟩ := List.forall_mem_cons.mp fun q hq => ih q hq (hfields q hq)
      exact (lexes_fieldLine hp (lexes_prettyFields hlater h)).mark (by decide) (by decide) rfl

end Json

end LintBridge
