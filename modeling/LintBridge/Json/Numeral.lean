import LintBridge.Decimal.Whole
import LintBridge.Json.Basic

/-!
# Numerals

A numeral is written as JSON demands: a whole part without superfluous zeros, then perhaps a
fraction and an exponent, each with one digit at least. A numeral without fraction and exponent
denotes a whole number if that fits in 64 bits; every other numeral denotes a double. Only as many
digits as fit in 64 bits count for a double.

## Main definitions

* `Numeral` — the parts of a numeral.
* `Numeral.scan?` — the numeral at the head of a text.
* `Numeral.value?` — what a numeral denotes.
-/

namespace LintBridge

/-- The parts of a numeral. -/
structure Numeral where
  /-- Whether a minus sign stands in front. -/
  isNegative : Bool
  /-- The digits before the point. -/
  whole : List Char
  /-- The digits after the point; none if there is no point. -/
  fraction : List Char
  /-- The exponent, if there is one. -/
  exponent : Option Int
  deriving Repr

namespace Numeral

/-- The digits at the head of a text, and what follows them. -/
def spanDigits (cs : List Char) : List Char × List Char :=
  cs.span Decimal.isDigit

/-- The whole part at the head of a text: a zero alone, or digits that begin with another. -/
def scanWhole? : List Char → Option (List Char × List Char)
  | '0' :: rest => some (['0'], rest)
  | cs =>
    match spanDigits cs with
    | ([], _) => none
    | (ds, rest) => some (ds, rest)

/-- The fraction at the head of a text: no digits if there is no point; `none` if digits are missing
after the point. -/
def scanFraction? : List Char → Option (List Char × List Char)
  | '.' :: rest =>
    match spanDigits rest with
    | ([], _) => none
    | (ds, rest) => some (ds, rest)
  | cs => some ([], cs)

/-- The digits of an exponent, with the sign it has. -/
def scanPower? (isNegative : Bool) (cs : List Char) : Option (Int × List Char) :=
  match spanDigits cs with
  | ([], _) => none
  | (ds, rest) =>
    let n : Int := Decimal.digitsValue ds
    some (if isNegative then -n else n, rest)

/-- The exponent at the head of a text, if there is one; `none` if its digits are missing. -/
def scanExponent? (cs : List Char) : Option (Option Int × List Char) :=
  let power? : Option (Int × List Char) → Option (Option Int × List Char) :=
    Option.map fun (n, rest) => (some n, rest)
  match cs with
  | c :: rest =>
    if c = 'e' ∨ c = 'E' then
      match rest with
      | '+' :: rest => power? (scanPower? false rest)
      | '-' :: rest => power? (scanPower? true rest)
      | _ => power? (scanPower? false rest)
    else some (none, cs)
  | [] => some (none, cs)

/-- The numeral without its sign at the head of a text, and what follows it. -/
def scanUnsigned? (isNegative : Bool) (cs : List Char) : Option (Numeral × List Char) := do
  let (whole, cs) ← scanWhole? cs
  let (fraction, cs) ← scanFraction? cs
  let (exponent, cs) ← scanExponent? cs
  some (⟨isNegative, whole, fraction, exponent⟩, cs)

/-- The numeral at the head of a text, and what follows it. -/
def scan? : List Char → Option (Numeral × List Char)
  | '-' :: cs => scanUnsigned? true cs
  | cs => scanUnsigned? false cs

/-- The digits as a number as long as they fit in 64 bits, and how many were left. -/
def takeWhole (n : Nat) : List Char → Nat × Nat
  | [] => (n, 0)
  | d :: ds =>
    let next := n * 10 + Decimal.digitValue d
    if next ≤ Decimal.maxLong then takeWhole next ds else (n, ds.length + 1)

/-- The digits appended to a number as long as it fits in 64 bits, and how many were taken. -/
def takeFraction (n : Nat) : List Char → Nat × Nat
  | [] => (n, 0)
  | d :: ds =>
    let next := n * 10 + Decimal.digitValue d
    if next ≤ Decimal.maxLong then
      let (m, taken) := takeFraction next ds
      (m, taken + 1)
    else (n, 0)

/-- The double that a numeral denotes, unless it is too large for any. -/
def double? (x : Numeral) : Option Double :=
  let (n, left) := takeWhole 0 x.whole
  let (n, taken) := takeFraction n x.fraction
  Double.ofDecimal? x.isNegative n.toUInt64 ((left : Int) - taken + x.exponent.getD 0)

/-- What a numeral denotes, unless it is too large for any double. A negative zero is a double. -/
def value? (x : Numeral) : Option Json :=
  let n := Decimal.digitsValue x.whole
  if x.fraction = [] ∧ x.exponent = none ∧ ¬ x.isNegative ∧ n ≤ Decimal.maxLong then
    some (.int n)
  else if x.fraction = [] ∧ x.exponent = none ∧ x.isNegative ∧ 0 < n
      ∧ n ≤ Decimal.maxSigned + 1 then
    some (.int (-(n : Int)))
  else x.double?.map .float

/-- What a text that is a numeral denotes. -/
def ofText? (cs : List Char) : Option Json :=
  match scan? cs with
  | some (x, []) => x.value?
  | _ => none

end Numeral

end LintBridge
