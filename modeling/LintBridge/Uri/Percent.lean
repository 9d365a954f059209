import LintBridge.Json.Escape
import LintBridge.Text.Utf8

/-!
# Percent encoding

In an address, a byte may be written as a percent sign and two hexadecimal digits. Each part of an
address has its own set of ASCII characters that are written so; control characters and characters
beyond ASCII are written so in all of them. A percent sign that stands in the text already is left
as it is, so encoding never changes what is encoded.

## Main definitions

* `Percent.encode` — a text with the characters of a set encoded.
* `Percent.decode` — the bytes that a text denotes.
* `Percent.pathSet`, `Percent.querySet`, … — the sets.
-/

namespace LintBridge

namespace Percent

/-- The characters that are encoded everywhere. -/
def isControl (c : Char) : Bool := c.toNat < 0x20 || 0x7E < c.toNat

/-- The set for fragments. -/
def fragmentSet (c : Char) : Bool := [' ', Escape.quote, '<', '>', '\x60'].contains c

/-- The set for paths. -/
def pathSet (c : Char) : Bool := fragmentSet c || ['#', '?', '\x7b', '\x7d'].contains c

/-- The set for user names and passwords. -/
def userSet (c : Char) : Bool :=
  pathSet c || ['/', ':', ';', '=', '@', '[', Escape.backslash, ']', '^', '|'].contains c

/-- The set for queries. -/
def querySet (c : Char) : Bool := [' ', Escape.quote, '#', '<', '>'].contains c

/-- The set for queries of the common network schemes. -/
def networkQuerySet (c : Char) : Bool := querySet c || c = Escape.apostrophe

/-- A hexadecimal digit, letters in upper case. -/
def upperHexDigit (n : Nat) : Char :=
  if n < 10 then Char.ofNat (48 + n) else Char.ofNat (55 + n)

/-- An encoded byte. -/
def encodeByte (b : UInt8) : List Char :=
  ['%', upperHexDigit (b.toNat / 16), upperHexDigit (b.toNat % 16)]

/-- A character, encoded if it is in the set. -/
def encodeChar (set : Char → Bool) (c : Char) : List Char :=
  if isControl c || set c then (String.utf8EncodeChar c).flatMap encodeByte else [c]

/-- A text with the characters of the set encoded. -/
def encode (set : Char → Bool) (cs : List Char) : List Char :=
  cs.flatMap (encodeChar set)

/-- The value of a byte as a hexadecimal digit. -/
def byteHexValue? (b : UInt8) : Option Nat := Escape.hexValue? (Char.ofNat b.toNat)

/-- The bytes that encoded bytes denote. -/
def decodeBytes : Bytes → Bytes
  | 37 :: a :: b :: rest =>
    match byteHexValue? a, byteHexValue? b with
    | some x, some y => (x * 16 + y).toUInt8 :: decodeBytes rest
    | _, _ => 37 :: decodeBytes (a :: b :: rest)
  | b :: rest => b :: decodeBytes rest
  | [] => []

/-- The bytes that a text denotes. -/
def decode (cs : List Char) : Bytes := decodeBytes (Utf8.encode (String.ofList cs))

end Percent

end LintBridge
