/-!
# Numbers in binary floating point

A double is a whole number below `2 ^ 53` times a power of two. Arithmetic rounds to the nearest
double; this module only names the parts of one, and reads one from a decimal number.

## Main definitions

* `Double` — the 64 bits of a double.
* `Double.mantissa`, `Double.exponent` — the whole number and the power of two.
* `Double.ofDecimal?` — the double of a decimal number, unless it is too large for any.
-/

namespace LintBridge

/-- The 64 bits of a floating point number. -/
structure Double where
  bits : UInt64
  deriving DecidableEq, Repr

namespace Double

/-- The sign bit. -/
def isNegative (d : Double) : Bool := Nat.pow 2 63 ≤ d.bits.toNat

/-- The eleven bits of the exponent. -/
def exponentBits (d : Double) : Nat := d.bits.toNat / Nat.pow 2 52 % Nat.pow 2 11

/-- The bits after the point. -/
def fractionBits (d : Double) : Nat := d.bits.toNat % Nat.pow 2 52

/-- The whole number that is scaled. -/
def mantissa (d : Double) : Nat :=
  if d.exponentBits = 0 then d.fractionBits else Nat.pow 2 52 + d.fractionBits

/-- The power of two that scales it. -/
def exponent (d : Double) : Int :=
  (if d.exponentBits = 0 then 1 else (d.exponentBits : Int)) - 1075

/-- Whether the next smaller double is nearer than the next larger one. -/
def isNarrowBelow (d : Double) : Bool :=
  d.fractionBits = 0 && 1 < d.exponentBits

/-- The largest power of ten that is taken in one step. -/
def stepLimit : Nat := 308

/-- Divides by ten to the `n`, the large powers first. -/
def scaleDown (x : Float) (n : Nat) : Float :=
  if n ≤ stepLimit then x / Float.ofScientific 1 false n
  else if x == 0 then x
  else scaleDown (x / Float.ofScientific 1 false stepLimit) (n - stepLimit)
termination_by n
decreasing_by
  simp only [stepLimit] at *
  omega

/-- The magnitude of `significand` times ten to the `exponent`, where the significand has at most 64
bits. The two are first rounded to doubles, then multiplied or divided. -/
def magnitude? (significand : UInt64) (exponent : Int) : Option Float :=
  let x := significand.toFloat
  match exponent with
  | .ofNat e =>
    if e ≤ stepLimit then
      let y := x * Float.ofScientific 1 false e
      if y.isInf then none else some y
    else if x == 0 then some x else none
  | .negSucc e => some (scaleDown x (e + 1))

/-- The double of a decimal number, unless it is too large for any. -/
def ofDecimal? (isNegative : Bool) (significand : UInt64) (exponent : Int) : Option Double :=
  (magnitude? significand exponent).map fun x => ⟨(if isNegative then -x else x).toBits⟩

/-- Zero with a sign. -/
def negativeZero : Double := ⟨0x8000000000000000⟩

end Double

end LintBridge
