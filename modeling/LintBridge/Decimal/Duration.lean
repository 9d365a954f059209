import LintBridge.Decimal.Whole
import LintBridge.Text.Blank

/-!
# Durations

A duration is written in the largest of the units second, millisecond, microsecond and nanosecond
that leaves a whole part, with as many decimal places as it needs.

## Main definitions

* `Duration` — a length of time in nanoseconds.
* `Duration.text` — a duration as it is written.
-/

namespace LintBridge

/-- A length of time. -/
structure Duration where
  nanoseconds : Nat
  deriving DecidableEq, Repr

namespace Duration

/-- A duration given in milliseconds. -/
def ofMilliseconds (ms : Nat) : Duration := ⟨ms * 1000000⟩

/-- `n` counted in units of `10 ^ places`, without zeros at the end of its decimal places. -/
def inUnits (n places : Nat) : List Char :=
  let unit := Nat.pow 10 places
  let fraction := Text.dropEndWhile (· = '0') (Decimal.padLeft places (Decimal.digits (n % unit)))
  Decimal.digits (n / unit) ++ (if fraction = [] then [] else '.' :: fraction)

/-- A duration as it is written. -/
def text (d : Duration) : String :=
  let n := d.nanoseconds
  if 1000000000 ≤ n then String.ofList (inUnits n 9) ++ "s"
  else if 1000000 ≤ n then String.ofList (inUnits n 6) ++ "ms"
  else if 1000 ≤ n then String.ofList (inUnits n 3) ++ "µs"
  else toString n ++ "ns"

end Duration

end LintBridge
