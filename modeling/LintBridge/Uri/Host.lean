import LintBridge.Decimal.Whole
import LintBridge.DomainName.Reader
import LintBridge.Text.Cut
import LintBridge.Uri.Percent

/-!
# Hosts in addresses

The host of a network scheme is a domain name or the number of a machine; the host of any other
scheme is a text without separators. Numbers of four bytes may be written in several ways and always
come out as four decimal numbers; numbers of sixteen bytes stand in brackets and come out with the
longest row of zeros left out. Domain names come out in their normal form.

## Main definitions

* `Host.readName?` — the host of a network scheme, as it is written in normal form.
* `Host.readOther?` — the host of another scheme.
-/

namespace LintBridge

namespace Host

/-- An ASCII letter as a small one. -/
def lowerChar (c : Char) : Char :=
  if 'A' ≤ c ∧ c ≤ 'Z' then Char.ofNat (c.toNat + 32) else c

/-! ### Numbers of four bytes -/

/-- The value of a row of digits in some base. -/
def baseValue? (base : Nat) (ds : List Char) : Option Nat :=
  ds.foldlM (fun n d => do
    let v ← Escape.hexValue? d
    if v < base then some (n * base + v) else none) 0

/-- One part of a number: decimal, octal after a zero, or hexadecimal after `0x`. -/
def numberPart? : List Char → Option Nat
  | [] => none
  | ['0'] => some 0
  | '0' :: c :: ds => if c = 'x' ∨ c = 'X' then baseValue? 16 ds else baseValue? 8 (c :: ds)
  | ds => baseValue? 10 ds

/-- The parts of a dotted name; an empty last one does not count. -/
def dottedParts (cs : List Char) : List (List Char) :=
  match (Text.splitAll '.' cs).reverse with
  | [] :: p :: ps => (p :: ps).reverse
  | ps => ps.reverse

/-- Whether a name can only be meant as a number. -/
def endsInNumber (cs : List Char) : Bool :=
  match (dottedParts cs).getLast? with
  | some part => part ≠ [] && (part.all Decimal.isDigit || (numberPart? part).isSome)
  | none => false

/-- The number that some parts give: the last one fills the bytes that the others leave. -/
def joinParts? (parts : List Nat) : Option Nat :=
  match parts.reverse with
  | [] => none
  | last :: firsts =>
    if 4 < parts.length ∨ firsts.any (255 < ·) ∨ Nat.pow 256 (5 - parts.length) ≤ last then none
    else
      some (firsts.reverse.zipIdx.foldl (fun sum (n, i) => sum + n * Nat.pow 256 (3 - i)) last)

/-- Four bytes as they are written. -/
def dotted (n : Nat) : List Char :=
  let byte (i : Nat) := Decimal.digits (n / Nat.pow 256 i % 256)
  byte 3 ++ '.' :: byte 2 ++ '.' :: byte 1 ++ '.' :: byte 0

/-- A number of four bytes in normal form. -/
def readFour? (cs : List Char) : Option (List Char) := do
  let parts ← (dottedParts cs).mapM numberPart?
  (joinParts? parts).map dotted

/-! ### Numbers of sixteen bytes -/

/-- One to four hexadecimal digits. -/
def piece? (ds : List Char) : Option Nat :=
  if ds = [] ∨ 4 < ds.length then none else baseValue? 16 ds

/-- A decimal number of one byte, without superfluous zeros. -/
def byte? (ds : List Char) : Option Nat :=
  match ds with
  | [] => none
  | '0' :: _ :: _ => none
  | _ =>
    if ds.all Decimal.isDigit ∧ ds.length ≤ 3 ∧ Decimal.digitsValue ds ≤ 255 then
      some (Decimal.digitsValue ds)
    else none

/-- Four bytes at the end of a number, as two pieces. -/
def tailPieces? (ds : List Char) : Option (List Nat) := do
  match ← (Text.splitAll '.' ds).mapM byte? with
  | [a, b, c, d] => some [a * 256 + b, c * 256 + d]
  | _ => none

/-- Pieces divided by colons; the last may be four bytes. -/
def pieces? (cs : List Char) : Option (List Nat) :=
  if cs = [] then some []
  else go (Text.splitAll ':' cs)
where
  /-- The pieces of the parts between the colons. -/
  go : List (List Char) → Option (List Nat)
    | [] => some []
    | [last] => if last.contains '.' then tailPieces? last else (piece? last).map fun n => [n]
    | p :: ps => do
      let n ← piece? p
      let ns ← go ps
      some (n :: ns)

/-- The eight pieces of a number. Two colons stand for one zero or more. -/
def eightPieces? (cs : List Char) : Option (List Nat) :=
  match Text.cutFirst [':', ':'] cs with
  | none => do
    let ns ← pieces? cs
    if ns.length = 8 then some ns else none
  | some (before, after) => do
    if before.contains '.' then none
    else
      let front ← pieces? before
      let back ← pieces? after
      let n := front.length + back.length
      if 7 < n then none else some (front ++ List.replicate (8 - n) 0 ++ back)

/-- The length of the row of zeros at the head. -/
def zerosAhead (ns : List Nat) : Nat := (ns.takeWhile (· = 0)).length

/-- The start and the length of the first of the longest rows of zeros, if it is longer than one. -/
def longestZeros? (ns : List Nat) : Option (Nat × Nat) :=
  let rows := (List.range ns.length).map fun i => (i, zerosAhead (ns.drop i))
  let best := rows.foldl (fun b r => if b.2 < r.2 then r else b) (0, 0)
  if 1 < best.2 then some best else none

/-- A piece as it is written. -/
def pieceText (n : Nat) : List Char := Nat.toDigits 16 n

/-- Pieces with colons between them. -/
def piecesText (ns : List Nat) : List Char := [':'].intercalate (ns.map pieceText)

/-- Eight pieces in normal form. -/
def eightText (ns : List Nat) : List Char :=
  match longestZeros? ns with
  | none => piecesText ns
  | some (start, length) =>
    piecesText (ns.take start) ++ [':', ':'] ++ piecesText (ns.drop (start + length))

/-- A number in brackets, in normal form. -/
def readBracketed? (cs : List Char) : Option (List Char) :=
  match cs.reverse with
  | ']' :: inner => (eightPieces? inner.reverse).map fun ns => '[' :: eightText ns ++ [']']
  | _ => none

/-! ### Names -/

/-- Characters that no host can contain. -/
def isForbidden (c : Char) : Bool :=
  ['\x00', '\t', '\n', '\r', ' ', '#', '/', ':', '<', '>', '?', '@', '[', Escape.backslash, ']',
    '^', '|'].contains c

/-- Characters that no domain name can contain. -/
def isForbiddenInName (c : Char) : Bool :=
  isForbidden c || Percent.isControl c || c = '%'

/-- The host of a network scheme, in normal form. -/
def readName? (cs : List Char) : Option (List Char) :=
  match cs with
  | '[' :: inner => readBracketed? inner
  | _ => do
    let text ← Utf8.decode? (Percent.decode cs)
    let name ← DomainName.read? text.toList
    if name = [] ∨ name.any isForbiddenInName then none
    else if endsInNumber name then readFour? name
    else some name

/-- The host of another scheme, in normal form; it may be empty. -/
def readOther? (cs : List Char) : Option (List Char) :=
  match cs with
  | '[' :: inner => readBracketed? inner
  | _ => if cs.any isForbidden then none else some (Percent.encode (fun _ => false) cs)

end Host

end LintBridge
