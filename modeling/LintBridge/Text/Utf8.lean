/-!
# Text and its bytes

Files, pipes and path names hold bytes; the editor speaks text. This module passes between the
two. Encoding is exact. Decoding comes in two forms: a strict one that refuses a text with any
broken sequence, and a lossy one that puts one replacement character in the place of each.

A broken sequence is as long as it can be: the bytes that begin some character, up to the byte
that no such character continues with. Every byte that begins no character is broken by itself.

## Main definitions

* `Bytes` — what files, pipes and path names hold.
* `Utf8.encode` — the bytes of a text.
* `Utf8.decodeHead` — the character, or the broken sequence, at the head of some bytes.
* `Utf8.lossy` — the text of some bytes, broken sequences replaced.
* `Utf8.decode?` — the text of some bytes, if none of it is broken.
-/

namespace LintBridge

/-- A sequence of bytes, as files, pipes and path names hold them. -/
abbrev Bytes := List UInt8

namespace Utf8

/-- The bytes of a text. -/
def encode (s : String) : Bytes :=
  s.toList.flatMap String.utf8EncodeChar

/-- What stands in a text in the place of a broken sequence. -/
def replacement : Char := '\uFFFD'

/-- Bytes that continue a character. -/
def isTail (b : UInt8) : Bool := 0x80 ≤ b && b ≤ 0xBF

/-- Bytes that may follow the lead byte `b` of a character of three or four bytes. The narrower
ranges leave out overlong forms, surrogates and what lies beyond the last code point. -/
def isSecond (b c : UInt8) : Bool :=
  if b = 0xE0 then 0xA0 ≤ c && c ≤ 0xBF
  else if b = 0xED then 0x80 ≤ c && c ≤ 0x9F
  else if b = 0xF0 then 0x90 ≤ c && c ≤ 0xBF
  else if b = 0xF4 then 0x80 ≤ c && c ≤ 0x8F
  else isTail c

/-- The payload of a continuation byte. -/
def tailBits (b : UInt8) : Nat := b.toNat % 64

/-- Reads the head of `b :: bs`: the character that begins there, or `none` for a broken sequence,
and the bytes that follow. -/
def decodeHead (b : UInt8) (bs : Bytes) : Option Char × Bytes :=
  if b < 0x80 then (some (Char.ofNat b.toNat), bs)
  else if 0xC2 ≤ b && b ≤ 0xDF then
    match bs with
    | c :: cs =>
      if isTail c then (some (Char.ofNat ((b.toNat % 32) * 64 + tailBits c)), cs) else (none, bs)
    | [] => (none, bs)
  else if 0xE0 ≤ b && b ≤ 0xEF then
    match bs with
    | c :: cs =>
      if isSecond b c then
        match cs with
        | d :: ds =>
          if isTail d then
            (some (Char.ofNat (((b.toNat % 16) * 64 + tailBits c) * 64 + tailBits d)), ds)
          else (none, cs)
        | [] => (none, cs)
      else (none, bs)
    | [] => (none, bs)
  else if 0xF0 ≤ b && b ≤ 0xF4 then
    match bs with
    | c :: cs =>
      if isSecond b c then
        match cs with
        | d :: ds =>
          if isTail d then
            match ds with
            | e :: es =>
              if isTail e then
                (some (Char.ofNat
                  ((((b.toNat % 8) * 64 + tailBits c) * 64 + tailBits d) * 64 + tailBits e)), es)
              else (none, ds)
            | [] => (none, ds)
          else (none, cs)
        | [] => (none, cs)
      else (none, bs)
    | [] => (none, bs)
  else (none, bs)

/-- Reading the head consumes its first byte at least. -/
theorem decodeHead_length_le (b : UInt8) (bs : Bytes) :
    (decodeHead b bs).2.length ≤ bs.length := by
  unfold decodeHead
  repeat' split
  all_goals simp
  all_goals omega

/-- Reads all of the bytes, each broken sequence as `none`; `acc` holds what was read, last first.
-/
def decodeAll (acc : List (Option Char)) : Bytes → List (Option Char)
  | [] => acc.reverse
  | b :: bs =>
    let head := decodeHead b bs
    decodeAll (head.1 :: acc) head.2
termination_by bs => bs.length
decreasing_by
  have := decodeHead_length_le b bs
  simp only [List.length_cons]
  omega

/-- The text of some bytes, with one replacement character for each broken sequence. -/
def lossy (bs : Bytes) : String :=
  String.ofList ((decodeAll [] bs).map (·.getD replacement))

/-- The text of some bytes, or `none` if any sequence in them is broken. -/
def decode? (bs : Bytes) : Option String :=
  ((decodeAll [] bs).mapM id).map String.ofList

end Utf8

end LintBridge
