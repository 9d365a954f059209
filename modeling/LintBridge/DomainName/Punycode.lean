/-!
# Punycode

A label with characters beyond ASCII is written in ASCII: first its ASCII characters, and after a
hyphen where the others go and which they are. The others come in the order of their code points.
Each is a number that counts the places and code points passed over since the one before, written
with digits of base 36, the least significant first. Digits below a threshold end a number, and the
thresholds follow the size of the numbers so far.

## Main definitions

* `Punycode.encode` — a text in ASCII characters.
* `Punycode.decode?` — the text that was encoded.
-/

namespace LintBridge

namespace Punycode

/-- Whether a character is in ASCII. -/
def isBasic (c : Char) : Bool := c.toNat < 0x80

/-- A digit: the small letters and then the decimal digits. -/
def digit (n : Nat) : Char := if n < 26 then Char.ofNat (97 + n) else Char.ofNat (22 + n)

/-- The value of a digit. -/
def digitValue? (c : Char) : Option Nat :=
  if 'a' ≤ c ∧ c ≤ 'z' then some (c.toNat - 97)
  else if '0' ≤ c ∧ c ≤ '9' then some (c.toNat - 22)
  else none

/-- The threshold of the digit at a place; places are counted 36, 72 and so on. -/
def threshold (place bias : Nat) : Nat :=
  if place ≤ bias then 1 else if bias + 26 ≤ place then 26 else place - bias

/-- A threshold is at least one. -/
theorem threshold_pos (place bias : Nat) : 1 ≤ threshold place bias := by
  unfold threshold
  split
  · exact Nat.le_refl 1
  · split <;> omega

/-- The bias that a number of some size asks for. -/
def biasOf (size : Nat) : Nat :=
  if 455 < size then 36 + biasOf (size / 35) else 36 * size / (size + 38)
termination_by size
decreasing_by exact Nat.div_lt_self (by omega) (by omega)

/-- The bias after a number, when `count` characters have their place. -/
def nextBias (n count : Nat) (isFirst : Bool) : Nat :=
  let size := if isFirst then n / 700 else n / 2
  biasOf (size + size / count)

/-- The first bias. -/
def firstBias : Nat := 72

/-! ### Encoding -/

/-- The digits of a number, from some place on. -/
def encodeNumber (bias place n : Nat) : List Char :=
  let t := threshold place bias
  if n < t then [digit n]
  else digit (t + (n - t) % (36 - t)) :: encodeNumber bias (place + 36) ((n - t) / (36 - t))
termination_by n
decreasing_by
  have := threshold_pos place bias
  exact Nat.lt_of_le_of_lt (Nat.div_le_self _ _) (by omega)

/-- What has been encoded. -/
structure Encoder where
  /-- The digits so far. -/
  digits : List Char
  /-- The places and code points passed over since the last number. -/
  passed : Nat
  /-- The bias of the next number. -/
  bias : Nat
  /-- The number of characters that have their place. -/
  count : Nat
  deriving DecidableEq, Repr

namespace Encoder

/-- Passes over one character of the text; `m` is the code point that is being placed, and `isFirst`
tells whether no number has been written. -/
def pass (basics m : Nat) (e : Encoder) (c : Char) : Encoder :=
  if c.toNat < m then { e with passed := e.passed + 1 }
  else if c.toNat = m then
    ⟨e.digits ++ encodeNumber e.bias 36 e.passed, 0,
      nextBias e.passed (e.count + 1) (e.count = basics), e.count + 1⟩
  else e

/-- Places all characters with the code points in a list, which are in order; `n` is the first code
point that has not been passed over. -/
def place (text : List Char) (basics : Nat) (n : Nat) (e : Encoder) : List Nat → Encoder
  | [] => e
  | m :: ms =>
    let e := { e with passed := e.passed + (m - n) * (e.count + 1) }
    let e := text.foldl (pass basics m) e
    place text basics (m + 1) { e with passed := e.passed + 1 } ms

end Encoder

/-- The code points beyond ASCII in a text, each once, in order. -/
def codePoints (text : List Char) : List Nat :=
  (((text.filter (!isBasic ·)).map Char.toNat).mergeSort (· ≤ ·)).eraseDups

/-- A text in ASCII characters. -/
def encode (text : List Char) : List Char :=
  let basics := text.filter isBasic
  let e := Encoder.place text basics.length 0x80 ⟨[], 0, firstBias, basics.length⟩ (codePoints text)
  basics ++ (if basics = [] then [] else ['-']) ++ e.digits

/-! ### Decoding -/

/-- What has been decoded. -/
structure Decoder where
  /-- The characters that have their place. -/
  text : List Char
  /-- The last code point that was placed. -/
  codePoint : Nat
  /-- The bias of the number that is being read. -/
  bias : Nat
  /-- The place of the text at which the number begins to count. -/
  start : Nat
  /-- The place that the digits read so far lead to. -/
  position : Nat
  /-- The weight of the next digit. -/
  weight : Nat
  /-- The place of the next digit in its number. -/
  place : Nat
  deriving DecidableEq, Repr

namespace Decoder

/-- Puts a character where a complete number says. -/
def insert? (d : Decoder) (position : Nat) : Option Decoder :=
  let count := d.text.length + 1
  let m := d.codePoint + position / count
  let i := position % count
  if m.isValidChar then
    some ⟨d.text.take i ++ Char.ofNat m :: d.text.drop i, m,
      nextBias (position - d.start) count (d.start = 0), i + 1, i + 1, 1, 36⟩
  else none

/-- Reads one digit. -/
def read? (d : Decoder) (c : Char) : Option Decoder := do
  let v ← digitValue? c
  let position := d.position + v * d.weight
  let t := threshold d.place d.bias
  if v < t then d.insert? position
  else some { d with position, weight := d.weight * (36 - t), place := d.place + 36 }

end Decoder

/-- The characters of a text before and after its last hyphen. A hyphen at the head divides nothing.
-/
def divide (code : List Char) : List Char × List Char :=
  let digits := (code.reverse.takeWhile (· ≠ '-')).reverse
  match (code.reverse.dropWhile (· ≠ '-')).drop 1 with
  | [] => ([], code)
  | basics => (basics.reverse, digits)

/-- The text that was encoded; none if the code is none. -/
def decode? (code : List Char) : Option (List Char) := do
  let (basics, digits) := divide code
  if basics.all isBasic then
    let d ← digits.foldlM Decoder.read? ⟨basics, 0x80, firstBias, 0, 0, 1, 36⟩
    if d.place = 36 then some d.text else none
  else none

end Punycode

end LintBridge
