import LintBridge.Decimal.Binary
import LintBridge.Decimal.Whole

/-!
# The shortest decimal of a double

A double is written with the fewest digits that read back as the same double; of several such
decimals the one nearest to it, and of two equally near ones the one with an even last digit.

The decimals of `n` digits form a grid. If some point of the grid lies among the reals that round to
the double, so does one of the two points of the grid next to it, and these two are all that needs
to be looked at.

## Main definitions

* `Shortest.digits` — the digits and the power of ten.
* `Shortest.text` — how a double is written.
-/

namespace LintBridge

namespace Shortest

/-- A positive fraction. -/
structure Ratio where
  numerator : Nat
  denominator : Nat

/-- `m` times two to the `q`. -/
def Ratio.ofBinary (m : Nat) (q : Int) : Ratio :=
  match q with
  | .ofNat e => ⟨m * Nat.pow 2 e, 1⟩
  | .negSucc e => ⟨m, Nat.pow 2 (e + 1)⟩

/-- `c` times ten to the `e`. -/
def Ratio.ofDecimal (c : Nat) (e : Int) : Ratio :=
  match e with
  | .ofNat e => ⟨c * Nat.pow 10 e, 1⟩
  | .negSucc e => ⟨c, Nat.pow 10 (e + 1)⟩

/-- The order of fractions. -/
def Ratio.le (a b : Ratio) : Bool :=
  a.numerator * b.denominator ≤ b.numerator * a.denominator

/-- The strict order of fractions. -/
def Ratio.lt (a b : Ratio) : Bool :=
  a.numerator * b.denominator < b.numerator * a.denominator

/-- The largest whole number `c` such that `c` times ten to the `e` is at most `a`. -/
def Ratio.floorAt (a : Ratio) (e : Int) : Nat :=
  match e with
  | .ofNat e => a.numerator / (a.denominator * Nat.pow 10 e)
  | .negSucc e => a.numerator * Nat.pow 10 (e + 1) / a.denominator

/-- The reals that round to a double: between `low` and `high`, these included if `closed`. -/
structure Interval where
  low : Ratio
  high : Ratio
  closed : Bool

/-- Whether a fraction rounds to the double. -/
def Interval.contains (i : Interval) (a : Ratio) : Bool :=
  if i.closed then i.low.le a && a.le i.high else i.low.lt a && a.lt i.high

/-- The power of ten of the first digit of `a`: the largest `e` for which ten to the `e` is at most
`a`, sought downwards from `top`. -/
def leadingPower (a : Ratio) : (fuel : Nat) → (top : Int) → Int
  | 0, top => top
  | fuel + 1, top => if (Ratio.ofDecimal 1 top).le a then top else leadingPower a fuel (top - 1)

/-- The better of the two points next to `value` on the grid of the multiples of ten to the `e`, if
any of them rounds to the double. -/
def nearest? (i : Interval) (value : Ratio) (e : Int) : Option Nat :=
  let c := value.floorAt e
  let below := i.contains (Ratio.ofDecimal c e)
  let above := i.contains (Ratio.ofDecimal (c + 1) e)
  if below && above then
    let middle := Ratio.ofDecimal (10 * c + 5) (e - 1)
    if value.lt middle then some c
    else if middle.lt value then some (c + 1)
    else if c % 2 = 0 then some c
    else some (c + 1)
  else if below then some c
  else if above then some (c + 1)
  else none

/-- Tries the grids of `count` digits and more. -/
def search (i : Interval) (value : Ratio) (leading : Int) : (fuel count : Nat) → Nat × Int
  | 0, count => (value.floorAt (leading - count), leading - count)
  | fuel + 1, count =>
    let e := leading + 1 - count
    match nearest? i value e with
    | some c => (c, e)
    | none => search i value leading fuel (count + 1)

/-- Takes the zeros at the end of `c` into the power of ten. -/
def stripZeros : (fuel c : Nat) → (e : Int) → Nat × Int
  | 0, c, e => (c, e)
  | fuel + 1, c, e => if c ≠ 0 ∧ c % 10 = 0 then stripZeros fuel (c / 10) (e + 1) else (c, e)

/-- The digits of the shortest decimal of a positive double, as a whole number, and the power of ten
that it is multiplied with. -/
def digits (d : Double) : Nat × Int :=
  let m := d.mantissa
  let q := d.exponent - 2
  let interval : Interval :=
    { low := Ratio.ofBinary (4 * m - (if d.isNarrowBelow then 1 else 2)) q
      high := Ratio.ofBinary (4 * m + 2) q
      closed := m % 2 = 0 }
  let value := Ratio.ofBinary (4 * m) q
  let leading := leadingPower value 700 309
  let (c, e) := search interval value leading 18 1
  stripZeros 20 c e

/-- The exponent of the scientific form: a sign and the digits. -/
def exponentText (e : Int) : List Char :=
  (if e < 0 then '-' else '+') :: Decimal.digits e.natAbs

/-- Digits `ds` times ten to the `e`. The point is placed within them or next to them while the
first digit counts between ten to the minus five and ten to the fifteen; beyond, the power of ten is
written out. -/
def layout (ds : List Char) (e : Int) : List Char :=
  let power := e + ds.length - 1
  if -5 ≤ power ∧ power ≤ 15 then
    if 0 ≤ e then ds ++ List.replicate e.toNat '0' ++ ['.', '0']
    else if 0 ≤ power then
      ds.take (power.toNat + 1) ++ '.' :: ds.drop (power.toNat + 1)
    else ['0', '.'] ++ List.replicate (-power - 1).toNat '0' ++ ds
  else
    match ds with
    | [d] => d :: 'e' :: exponentText power
    | d :: rest => d :: '.' :: rest ++ 'e' :: exponentText power
    | [] => []

/-- How a finite double is written. -/
def text (d : Double) : List Char :=
  let magnitude : List Char :=
    if d.mantissa = 0 then ['0', '.', '0']
    else
      let (c, e) := digits d
      layout (Decimal.digits c) e
  if d.isNegative then '-' :: magnitude else magnitude

end Shortest

end LintBridge
