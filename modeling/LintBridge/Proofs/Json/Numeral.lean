import Mathlib.Data.List.TakeDrop
import Mathlib.Data.Nat.Basic
import LintBridge.Json.Printer
import LintBridge.Json.Relaxed

/-!
# Numerals of whole numbers

A whole number is written with its decimal digits, of which the first is a zero only if it is the
only one, and with a minus sign in front if it is negative. So no such numeral looks like one in
hexadecimal, nor like the beginning of one where something else is meant, and the reader stops where
the digits end, as long as a comma or a line break follows (`Token.readNumeral?_intText`). The
number that it denotes is the one that was written, if that has 64 bits
(`Token.numeralValue_intText`).

## Main definitions

* `Token.Stops` — nothing follows, or a comma or a line break.

## Main results

* `Decimal.digitsValue_digits` — the digits of a number denote it.
* `Token.readNumeral?_intText`, `Token.numeralValue_intText` — a whole number is read back.
-/

namespace LintBridge

/-! ### Digits -/

namespace Decimal

variable {n : Nat}

theorem digits_eq_toDigits (n : Nat) : digits n = Nat.toDigits 10 n := by
  rw [digits, Nat.toString_eq_ofList_toDigits, String.toList_ofList]

theorem isDigit_of_mem_digits {c : Char} (h : c ∈ digits n) : isDigit c = true := by
  rw [digits_eq_toDigits] at h
  exact Nat.isDigit_of_mem_toDigits (by decide) (by decide) h

theorem not_mem_digits {c : Char} (h : isDigit c = false) (n : Nat) : c ∉ digits n := fun hc => by
  rw [isDigit_of_mem_digits hc] at h
  cases h

theorem isBlank_of_isDigit {c : Char} (h : isDigit c = true) : isBlank c = false := by
  rw [isDigit, Bool.and_eq_true, decide_eq_true_eq, decide_eq_true_eq] at h
  have hnat : 48 ≤ c.toNat ∧ c.toNat ≤ 57 := h
  simp only [isBlank, Bool.or_eq_false_iff, Bool.and_eq_false_iff, decide_eq_false_iff_not,
    beq_eq_false_iff_ne]
  omega

theorem digitsValue_eq (ds : List Char) : digitsValue ds = Nat.ofDigitChars 10 ds 0 := by
  rw [digitsValue, Nat.ofDigitChars_eq_foldl]
  simp only [Nat.mul_comm 10, digitValue]
  rfl

/-- **The digits of a number denote it.** -/
theorem digitsValue_digits (n : Nat) : digitsValue (digits n) = n := by
  rw [digitsValue_eq, digits_eq_toDigits, Nat.ofDigitChars_ten_toDigits]

theorem digits_inj {m n : Nat} (h : digits m = digits n) : m = n := by
  rw [← digitsValue_digits m, h, digitsValue_digits]

/-- The first digit is a zero only if it is the only one. -/
theorem digits_eq_cons (n : Nat) :
    ∃ d ds, digits n = d :: ds ∧ isDigit d = true ∧ (d = '0' → ds = []) ∧ (d = '0' ↔ n = 0) := by
  simp only [digits_eq_toDigits]
  induction n using Nat.strongRecOn with
  | ind n ih =>
    rcases Nat.lt_or_ge n 10 with hlt | hge
    · have hdigits : Nat.toDigits 10 n = [n.digitChar] := Nat.toDigits_of_lt_base hlt
      refine ⟨_, _, hdigits, ?_, fun _ => rfl, ?_⟩
      · exact isDigit_of_mem_digits (n := n) (by simp [digits_eq_toDigits, hdigits])
      · exact Nat.digitChar_eq_zero
    · obtain ⟨d, ds, hdigits, hd, -, hzero⟩ := ih (n / 10) (by omega)
      have hne : d ≠ '0' := fun h => by
        have := hzero.mp h
        omega
      rw [Nat.toDigits_of_base_le (by decide) hge, hdigits]
      exact ⟨d, _, rfl, hd, fun h => absurd h hne, fun h => absurd h hne, by omega⟩

end Decimal

/-! ### Reading numerals -/

namespace Numeral

variable {cs ds rest : List Char}

theorem spanDigits_append (hds : ∀ c ∈ ds, Decimal.isDigit c = true)
    (hrest : ∀ c ∈ rest.head?, Decimal.isDigit c = false) :
    spanDigits (ds ++ rest) = (ds, rest) := by
  have htake : rest.takeWhile Decimal.isDigit = [] := by
    cases rest with
    | nil => rfl
    | cons c rest => simp [hrest c rfl]
  have hdrop : rest.dropWhile Decimal.isDigit = rest := by
    cases rest with
    | nil => rfl
    | cons c rest => simp [hrest c rfl]
  rw [spanDigits, List.span_eq_takeWhile_dropWhile, List.takeWhile_append_of_pos hds,
    List.dropWhile_append_of_pos hds, htake, hdrop, List.append_nil]

theorem scanWhole?_digits (n : Nat) (hrest : ∀ c ∈ rest.head?, Decimal.isDigit c = false) :
    scanWhole? (Decimal.digits n ++ rest) = some (Decimal.digits n, rest) := by
  obtain ⟨d, ds, hdigits, hd, hzero, -⟩ := Decimal.digits_eq_cons n
  have hspan := spanDigits_append (fun c hc => Decimal.isDigit_of_mem_digits (n := n) hc) hrest
  rw [hdigits] at hspan ⊢
  by_cases hd0 : d = '0'
  · obtain rfl := hzero hd0
    subst hd0
    rfl
  · rw [List.cons_append] at hspan ⊢
    rw [scanWhole?]
    · rw [hspan]
    · intro tail htail
      exact hd0 (List.cons.inj htail).1

/-- What follows is neither part of a fraction nor of an exponent. -/
theorem scanUnsigned?_digits (n : Nat) (isNegative : Bool)
    (hrest : ∀ c ∈ rest.head?, Decimal.isDigit c = false ∧ c ≠ '.' ∧ c ≠ 'e' ∧ c ≠ 'E') :
    scanUnsigned? isNegative (Decimal.digits n ++ rest) =
      some (⟨isNegative, Decimal.digits n, [], none⟩, rest) := by
  have hfraction : scanFraction? rest = some ([], rest) := by
    cases rest with
    | nil => rfl
    | cons c rest =>
      rw [scanFraction?]
      rintro tail ⟨rfl, -⟩
      exact (hrest '.' rfl).2.1 rfl
  have hexponent : scanExponent? rest = some (none, rest) := by
    cases rest with
    | nil => rfl
    | cons c rest =>
      have hc := hrest c rfl
      simp only [scanExponent?, hc.2.2.1, hc.2.2.2, or_self, if_false]
  rw [scanUnsigned?, scanWhole?_digits n fun c hc => (hrest c hc).1]
  simp only [Option.bind_eq_bind, Option.bind_some, hfraction, hexponent]

end Numeral

/-! ### Whole numbers -/

namespace Token

variable {rest : List Char}

/-- Nothing follows, or a comma or a line break. -/
def Stops (rest : List Char) : Prop := ∀ c ∈ rest.head?, c = ',' ∨ c = '\n'

theorem Stops.not_numeral (h : Stops rest) :
    ∀ c ∈ rest.head?, Decimal.isDigit c = false ∧ c ≠ '.' ∧ c ≠ 'e' ∧ c ≠ 'E' := by
  intro c hc
  rcases h c hc with rfl | rfl <;> decide

theorem afterUnsigned?_digits (n : Nat) (hrest : Stops rest) :
    afterUnsigned? (Decimal.digits n ++ rest) = some rest := by
  have hscan := Numeral.scanUnsigned?_digits n false hrest.not_numeral
  obtain ⟨d, ds, hdigits, -, hzero, -⟩ := Decimal.digits_eq_cons n
  rw [hdigits] at hscan ⊢
  by_cases hd0 : d = '0'
  · obtain rfl := hzero hd0
    subst hd0
    cases rest with
    | nil => rfl
    | cons c rest =>
      -- A zero that begins a numeral in hexadecimal is followed by a letter.
      have hx : ¬ (c = 'x' ∨ c = 'X') := by
        rcases hrest c rfl with rfl | rfl <;> decide
      simp only [List.cons_append, List.nil_append, afterUnsigned?, if_neg hx] at hscan ⊢
      rw [hscan]
      rfl
  · rw [List.cons_append] at hscan ⊢
    rw [afterUnsigned?]
    · rw [hscan]
      rfl
    · intro x tail htail
      exact hd0 (List.cons.inj htail).1

theorem unsigned_intText (n : Int) : unsigned (Json.intText n ++ rest) =
    Decimal.digits n.natAbs ++ rest := by
  obtain ⟨d, ds, hdigits, hd, -, -⟩ := Decimal.digits_eq_cons n.natAbs
  rw [Json.intText]
  split
  · rfl
  · rw [hdigits, List.cons_append, unsigned]
    · rintro tail ⟨rfl, -⟩
      revert hd
      decide
    · rintro tail ⟨rfl, -⟩
      revert hd
      decide

/-- What is read ends where the numeral without its sign ends. -/
theorem readNumeral?_of_unsigned {cs : List Char} (h : afterUnsigned? (unsigned cs) = some rest) :
    readNumeral? cs = some (cs.take (cs.length - rest.length), rest) := by
  unfold unsigned at h
  split at h
  · rw [readNumeral?, h]
    rfl
  · rw [readNumeral?, h]
    rfl
  · next hplus hminus =>
    rw [readNumeral?, h]
    · rfl
    · exact hplus
    · exact hminus

/-- **A whole number is read up to where it ends.** -/
theorem readNumeral?_intText (n : Int) (hrest : Stops rest) :
    readNumeral? (Json.intText n ++ rest) = some (Json.intText n, rest) := by
  have hafter : afterUnsigned? (unsigned (Json.intText n ++ rest)) = some rest := by
    rw [unsigned_intText, afterUnsigned?_digits n.natAbs hrest]
  rw [readNumeral?_of_unsigned hafter, List.length_append, Nat.add_sub_cancel, List.take_left]

theorem scan?_intText (n : Int) (hrest : Stops rest) : Numeral.scan? (Json.intText n ++ rest) =
    some (⟨decide (n < 0), Decimal.digits n.natAbs, [], none⟩, rest) := by
  have hscan (isNegative : Bool) :=
    Numeral.scanUnsigned?_digits n.natAbs isNegative hrest.not_numeral
  obtain ⟨d, ds, hdigits, hd, -, -⟩ := Decimal.digits_eq_cons n.natAbs
  by_cases hn : n < 0
  · rw [Json.intText, if_pos hn, List.cons_append, Numeral.scan?, hscan, decide_eq_true hn]
  · rw [Json.intText, if_neg hn, decide_eq_false hn, ← hscan, hdigits, List.cons_append,
      Numeral.scan?]
    rintro tail ⟨rfl, -⟩
    revert hd
    decide

/-- The digits of a whole number denote it, if it has 64 bits. -/
theorem value?_digits {n : Int} (hmin : Decimal.minLong ≤ n) (hmax : n ≤ Decimal.maxLong) :
    (⟨decide (n < 0), Decimal.digits n.natAbs, [], none⟩ : Numeral).value? = some (.int n) := by
  simp only [Numeral.value?, Decimal.digitsValue_digits, true_and, decide_eq_true_eq]
  simp only [Decimal.minLong, Decimal.maxLong] at hmin hmax
  by_cases hn : n < 0
  · rw [if_neg (by omega), if_pos (by simp only [Decimal.maxSigned]; omega)]
    congr 2
    omega
  · rw [if_pos (by simp only [Decimal.maxLong]; omega)]
    congr 2
    omega

/-- **A whole number denotes itself**, if it has 64 bits. -/
theorem numeralValue_intText {n : Int} (hmin : Decimal.minLong ≤ n) (hmax : n ≤ Decimal.maxLong) :
    numeralValue (Json.intText n) = .int n := by
  have hstops : Stops [] := fun c hc => absurd hc (Option.not_mem_none c)
  have hscan := scan?_intText n hstops
  rw [List.append_nil] at hscan
  have htext : Numeral.ofText? (Json.intText n) = some (.int n) := by
    rw [Numeral.ofText?, hscan]
    exact value?_digits hmin hmax
  have hunsigned : unsigned (Json.intText n) = Decimal.digits n.natAbs := by
    rw [← List.append_nil (Json.intText n), unsigned_intText, List.append_nil]
  have hdecimal : numeralValue.decimalValue (Json.intText n) = .int n := by
    have hplus : ∀ tail, Json.intText n ≠ '+' :: tail := by
      intro tail heq
      rw [heq] at hscan
      cases hscan
    rw [numeralValue.decimalValue, htext, Option.getD_some]
    exact hplus
  obtain ⟨d, ds, hdigits, -, hzero, -⟩ := Decimal.digits_eq_cons n.natAbs
  rw [numeralValue.eq_def, hunsigned]
  split
  · next x digits heq =>
    -- A second digit after a zero would make the numeral one in hexadecimal, or none.
    rw [hdigits] at heq
    obtain ⟨rfl, rfl⟩ := List.cons.inj heq
    cases hzero rfl
  · exact hdecimal

end Token

end LintBridge
