import LintBridge.Text.Blank

/-!
# Escapes in strings

## Main definitions

* `Escape.hex4?` — the number that four hexadecimal digits denote.
* `Escape.unicode?` — the character that one or two `\u` escapes denote.
* `Escape.simple?` — the character that a letter after a backslash denotes.
* `Escape.write` — how a character is written in a string.
-/

namespace LintBridge

namespace Escape

/-- The double quote. -/
def quote : Char := '\x22'

/-- The single quote. -/
def apostrophe : Char := '\x27'

/-- The backslash. -/
def backslash : Char := '\x5c'

/-- The value of a hexadecimal digit. -/
def hexValue? (c : Char) : Option Nat :=
  if '0' ≤ c ∧ c ≤ '9' then some (c.toNat - 48)
  else if 'a' ≤ c ∧ c ≤ 'f' then some (c.toNat - 87)
  else if 'A' ≤ c ∧ c ≤ 'F' then some (c.toNat - 55)
  else none

/-- The number that hexadecimal digits denote. -/
def hexNumber (digits : List Char) : Nat :=
  digits.foldl (fun n d => n * 16 + (hexValue? d).getD 0) 0

/-- The number that the four hexadecimal digits at the head of a text denote. -/
def hex4? : List Char → Option (Nat × List Char)
  | a :: b :: c :: d :: rest => do
    let a ← hexValue? a
    let b ← hexValue? b
    let c ← hexValue? c
    let d ← hexValue? d
    some (((a * 16 + b) * 16 + c) * 16 + d, rest)
  | _ => none

/-- The character denoted by the text after `\u`: four hexadecimal digits, or those of a high
surrogate followed by the escape of a low one. -/
def unicode? (cs : List Char) : Option (Char × List Char) := do
  let (n, rest) ← hex4? cs
  if 0xD800 ≤ n ∧ n ≤ 0xDBFF then
    match rest with
    | b :: 'u' :: rest =>
      if b = backslash then
        let (m, rest) ← hex4? rest
        if 0xDC00 ≤ m ∧ m ≤ 0xDFFF then
          some (Char.ofNat (0x10000 + (n - 0xD800) * 1024 + (m - 0xDC00)), rest)
        else none
      else none
    | _ => none
  else if 0xDC00 ≤ n ∧ n ≤ 0xDFFF then none
  else some (Char.ofNat n, rest)

/-- The character that a letter after a backslash denotes. -/
def simple? (c : Char) : Option Char :=
  if c = quote ∨ c = backslash ∨ c = '/' then some c
  else if c = 'b' then some '\x08'
  else if c = 'f' then some '\x0c'
  else if c = 'n' then some '\n'
  else if c = 'r' then some '\r'
  else if c = 't' then some '\t'
  else none

/-- A hexadecimal digit. -/
def hexDigit (n : Nat) : Char :=
  if n < 10 then Char.ofNat (48 + n) else Char.ofNat (87 + n)

/-- How a character is written between double quotes. Quotes, backslashes and control characters are
escaped, those with a letter of their own by it; all else stands for itself. -/
def write (c : Char) : List Char :=
  if c = quote then [backslash, quote]
  else if c = backslash then [backslash, backslash]
  else if c = '\x08' then [backslash, 'b']
  else if c = '\x0c' then [backslash, 'f']
  else if c = '\n' then [backslash, 'n']
  else if c = '\r' then [backslash, 'r']
  else if c = '\t' then [backslash, 't']
  else if c.toNat < 0x20 then
    [backslash, 'u', '0', '0', hexDigit (c.toNat / 16), hexDigit (c.toNat % 16)]
  else [c]

/-- A whole string with its quotes. -/
def writeAll (cs : List Char) : List Char :=
  quote :: cs.flatMap write ++ [quote]

end Escape

end LintBridge
