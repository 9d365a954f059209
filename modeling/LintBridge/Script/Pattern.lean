import LintBridge.Script.Command

/-!
# Patterns

Patterns stand for sets of names: a star for any text, a question mark for any byte, brackets for
one byte of a list. Quoted bytes stand for themselves.

## Main definitions

* `Script.Pattern.ofField` — the pattern that a word with quoted bytes denotes.
* `Script.Pattern.covers` — whether it stands for some bytes.
* `Script.Pattern.trim` — what is left of some bytes without the part that it stands for.
-/

namespace LintBridge

namespace Script

/-- A word after its parts have been replaced by values: bytes, each quoted or not. -/
abbrev Field := List (UInt8 × Bool)

namespace Pattern

/-- A part of a pattern. -/
inductive Item where
  | one (b : UInt8)
  | any
  | many
  | among (isNegated : Bool) (ranges : List (UInt8 × UInt8))
  deriving DecidableEq, Repr

/-- The ranges in a list in brackets, and what follows the closing one. -/
def readRanges? (isFirst : Bool) : (fuel : Nat) → Field → Option (List (UInt8 × UInt8) × Field)
  | 0, _ => none
  | _ + 1, [] => none
  | fuel + 1, (b, q) :: rest =>
    if b = byte ']' ∧ !q ∧ !isFirst then some ([], rest)
    else
      match rest with
      | (d, false) :: (c, r) :: more =>
        if d = byte '-' ∧ (c ≠ byte ']' ∨ r) then
          (readRanges? false fuel more).map fun (ranges, rest) => ((b, c) :: ranges, rest)
        else (readRanges? false fuel rest).map fun (ranges, rest) => ((b, b) :: ranges, rest)
      | _ => (readRanges? false fuel rest).map fun (ranges, rest) => ((b, b) :: ranges, rest)

/-- The list of bytes after an opening bracket. -/
def readAmong? (f : Field) : Option (Item × Field) :=
  let (isNegated, inner) := match f with
    | (b, false) :: rest => if b = byte '!' ∨ b = byte '^' then (true, rest) else (false, f)
    | _ => (false, f)
  (readRanges? true (inner.length + 1) inner).map fun (ranges, rest) =>
    (.among isNegated ranges, rest)

/-- The pattern that a word denotes. -/
def ofFieldUpTo : (fuel : Nat) → Field → List Item
  | 0, _ => []
  | _ + 1, [] => []
  | fuel + 1, (b, q) :: rest =>
    if q then .one b :: ofFieldUpTo fuel rest
    else if b = byte '*' then .many :: ofFieldUpTo fuel rest
    else if b = byte '?' then .any :: ofFieldUpTo fuel rest
    else if b = byte '[' then
      match readAmong? rest with
      | some (item, rest) => item :: ofFieldUpTo fuel rest
      | none => .one b :: ofFieldUpTo fuel rest
    else .one b :: ofFieldUpTo fuel rest

/-- The pattern that a word denotes. -/
def ofField (f : Field) : List Item := ofFieldUpTo (f.length + 1) f

/-- Whether an item stands for a byte. -/
def Item.coversByte : Item → UInt8 → Bool
  | .one a, b => a = b
  | .any, _ => true
  | .many, _ => true
  | .among isNegated ranges, b => (ranges.any fun (low, high) => low ≤ b && b ≤ high) != isNegated

/-- Whether a pattern stands for some bytes. -/
def covers : List Item → Bytes → Bool
  | [], bs => bs = []
  | .many :: items, [] => covers items []
  | .many :: items, b :: bs => covers items (b :: bs) || covers (.many :: items) bs
  | _ :: _, [] => false
  | item :: items, b :: bs => item.coversByte b && covers items bs
termination_by items bs => (items.length, bs.length)

/-- Whether any byte of a word makes it a pattern. -/
def isPattern (f : Field) : Bool :=
  f.any fun (b, q) => !q && (b = byte '*' || b = byte '?' || b = byte '[')

/-- What is left of some bytes without the shortest, or the longest, part at one end that a pattern
stands for. -/
def trim (items : List Item) (atEnd isLongest : Bool) (bs : Bytes) : Bytes :=
  let cuts := List.range (bs.length + 1)
  let cuts := if atEnd = isLongest then cuts else cuts.reverse
  let fits (n : Nat) := covers items (if atEnd then bs.drop n else bs.take n)
  match cuts.find? fits with
  | some n => if atEnd then bs.take n else bs.drop n
  | none => bs

end Pattern

end Script

end LintBridge
