/-!
# Blank characters

The characters that surround a value without belonging to it: the White_Space property of Unicode.
The zero-width space U+200B and the byte order mark U+FEFF do not have it.

## Main definitions

* `isBlank` — the property.
* `trim` — a text without the blanks at both ends.
* `isBlankText` — a text of blanks alone.
-/

namespace LintBridge

/-- White_Space of Unicode. -/
def isBlank (c : Char) : Bool :=
  let n := c.toNat
  (9 ≤ n && n ≤ 13) || n == 0x20 || n == 0x85 || n == 0xA0 || n == 0x1680
    || (0x2000 ≤ n && n ≤ 0x200A) || n == 0x2028 || n == 0x2029 || n == 0x202F || n == 0x205F
    || n == 0x3000

namespace Text

/-- The characters left when all those at the end that satisfy `p` are dropped. -/
def dropEndWhile (p : Char → Bool) (cs : List Char) : List Char :=
  (cs.reverse.dropWhile p).reverse

/-- The characters between the blanks at both ends. -/
def trimChars (cs : List Char) : List Char :=
  dropEndWhile isBlank (cs.dropWhile isBlank)

/-- A text without the blanks at both ends. -/
def trim (s : String) : String :=
  String.ofList (trimChars s.toList)

/-- A text that is empty or holds blanks alone. -/
def isBlankText (s : String) : Bool :=
  s.toList.all isBlank

end Text

end LintBridge
