/-!
# Ranges of characters

Sets of characters are written as the ranges of their code points, in order.

## Main definitions

* `inRanges` — whether a code point lies in one of some ranges.
-/

namespace LintBridge

/-- Searches the ranges numbered from `low` up to `high`, of which there are fewer than `2 ^ steps`.
-/
def inRanges (ranges : Array (Nat × Nat)) (n : Nat) : (steps low high : Nat) → Bool
  | 0, _, _ => false
  | steps + 1, low, high =>
    if high ≤ low then false
    else
      let middle := (low + high) / 2
      match ranges[middle]? with
      | none => false
      | some (first, last) =>
        if n < first then inRanges ranges n steps low middle
        else if last < n then inRanges ranges n steps (middle + 1) high
        else true

end LintBridge
