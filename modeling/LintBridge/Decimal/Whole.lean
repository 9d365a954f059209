/-!
# Whole numbers in decimal

## Main definitions

* `Decimal.digitsValue` — what a row of digits denotes.
* `Decimal.readWhole?` — a number with an optional plus sign, up to a bound.
* `Decimal.padLeft` — digits filled up with zeros to a width.
-/

namespace LintBridge

namespace Decimal

/-- ASCII digits; no other script's digits count. -/
def isDigit (c : Char) : Bool := '0' ≤ c && c ≤ '9'

/-- The value of one digit. -/
def digitValue (c : Char) : Nat := c.toNat - 48

/-- What a row of digits denotes. -/
def digitsValue (ds : List Char) : Nat :=
  ds.foldl (fun n d => n * 10 + digitValue d) 0

/-- The number that one or more digits denote, after at most one plus sign, unless it exceeds
`bound`. -/
def readWhole? (bound : Nat) (cs : List Char) : Option Nat :=
  let ds := match cs with
    | '+' :: rest => rest
    | _ => cs
  if ds ≠ [] ∧ ds.all isDigit ∧ digitsValue ds ≤ bound then some (digitsValue ds) else none

/-- The largest number of 32 bits. -/
def maxWord : Nat := 4294967295

/-- The largest number of 63 bits. -/
def maxSigned : Nat := 9223372036854775807

/-- The least number of 64 bits of which one is a sign. -/
def minLong : Int := -9223372036854775808

/-- The largest number of 64 bits. -/
def maxLong : Nat := 18446744073709551615

/-- The decimal digits of a number. -/
def digits (n : Nat) : List Char :=
  (toString n).toList

/-- Digits filled up with zeros on the left to `width`. -/
def padLeft (width : Nat) (ds : List Char) : List Char :=
  List.replicate (width - ds.length) '0' ++ ds

end Decimal

end LintBridge
