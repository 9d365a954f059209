import LintBridge.Decimal.Shortest
import LintBridge.Json.Basic
import LintBridge.Json.Escape

/-!
# Printing JSON

## Main definitions

* `Json.compact` — a value without any blanks.
* `Json.pretty` — a value with each item and each field on a line of its own, indented by two
  spaces more than what contains it. Empty containers are written without a line break.
-/

namespace LintBridge

namespace Json

/-- The brace that opens an object. -/
def openBrace : Char := '\x7b'

/-- The brace that closes an object. -/
def closeBrace : Char := '\x7d'

/-- A whole number. -/
def intText (n : Int) : List Char :=
  if n < 0 then '-' :: Decimal.digits n.natAbs else Decimal.digits n.natAbs

/-- A line break and the indentation of the given depth. -/
def newline (depth : Nat) : List Char :=
  '\n' :: List.replicate (2 * depth) ' '

mutual

/-- A value without any blanks. -/
def compactChars : Json → List Char
  | .null => ['n', 'u', 'l', 'l']
  | .bool true => ['t', 'r', 'u', 'e']
  | .bool false => ['f', 'a', 'l', 's', 'e']
  | .int n => intText n
  | .float d => Shortest.text d
  | .str s => Escape.writeAll s.toList
  | .arr [] => ['[', ']']
  | .arr (j :: js) => '[' :: (compactChars j ++ compactItems js)
  | .obj [] => [openBrace, closeBrace]
  | .obj ((k, v) :: rest) =>
    openBrace :: (Escape.writeAll k.toList ++ ':' :: (compactChars v ++ compactFields rest))

/-- The items after the first, and the bracket that closes them. -/
def compactItems : List Json → List Char
  | [] => [']']
  | j :: js => ',' :: (compactChars j ++ compactItems js)

/-- The fields after the first, and the brace that closes them. -/
def compactFields : List (String × Json) → List Char
  | [] => [closeBrace]
  | (k, v) :: rest =>
    ',' :: (Escape.writeAll k.toList ++ ':' :: (compactChars v ++ compactFields rest))

end

mutual

/-- A value at some depth, with line breaks. -/
def prettyChars (depth : Nat) : Json → List Char
  | .null => ['n', 'u', 'l', 'l']
  | .bool true => ['t', 'r', 'u', 'e']
  | .bool false => ['f', 'a', 'l', 's', 'e']
  | .int n => intText n
  | .float d => Shortest.text d
  | .str s => Escape.writeAll s.toList
  | .arr [] => ['[', ']']
  | .arr (j :: js) =>
    '[' :: (newline (depth + 1) ++ (prettyChars (depth + 1) j ++ prettyItems depth js))
  | .obj [] => [openBrace, closeBrace]
  | .obj ((k, v) :: rest) =>
    openBrace :: (newline (depth + 1) ++ (Escape.writeAll k.toList ++
      ':' :: ' ' :: (prettyChars (depth + 1) v ++ prettyFields depth rest)))

/-- The items after the first, and the bracket that closes them. -/
def prettyItems (depth : Nat) : List Json → List Char
  | [] => newline depth ++ [']']
  | j :: js =>
    ',' :: (newline (depth + 1) ++ (prettyChars (depth + 1) j ++ prettyItems depth js))

/-- The fields after the first, and the brace that closes them. -/
def prettyFields (depth : Nat) : List (String × Json) → List Char
  | [] => newline depth ++ [closeBrace]
  | (k, v) :: rest =>
    ',' :: (newline (depth + 1) ++ (Escape.writeAll k.toList ++
      ':' :: ' ' :: (prettyChars (depth + 1) v ++ prettyFields depth rest)))

end

/-- A value without any blanks. -/
def compact (j : Json) : String := String.ofList (compactChars j)

/-- A value with line breaks and indentation. -/
def pretty (j : Json) : String := String.ofList (prettyChars 0 j)

end Json

end LintBridge
