import LintBridge.Json.Escape
import LintBridge.Text.Cut
import LintBridge.Text.Ranges

/-!
# Tables of characters

The tables of this folder are texts with one word for each character or range of characters.
Characters are hexadecimal code points. `61-7A` is a range, `100/12E` every second character of
one. In a rule, a colon and an image follow, with dots between the characters of the image:
`A8:20.308` replaces one character by two, and `41-5A:61` a range by the one of the same length that
begins at `61`.

## Main definitions

* `Table.ranges` — the ranges that a text lists.
* `Table.lists` — whether a character lies in some ranges.
* `Table.Rule` and `Table.rules` — the rules that a text lists.
* `Table.Rule.image?` — what a rule makes of a character.
-/

namespace LintBridge

namespace DomainName

namespace Table

/-- Puts a character before some words; a blank begins a new word. -/
def consWord (c : Char) : List (List Char) → List (List Char)
  | [] => [[c]]
  | word :: words => if c = ' ' ∨ c = '\n' then [] :: word :: words else (c :: word) :: words

/-- The words of a text. -/
def words (text : String) : List (List Char) :=
  (text.toList.foldr consWord [[]]).filter (· ≠ [])

/-- The range that a word denotes. -/
def range (word : List Char) : Nat × Nat :=
  match Text.cutFirst ['-'] word with
  | some (first, last) => (Escape.hexNumber first, Escape.hexNumber last)
  | none => (Escape.hexNumber word, Escape.hexNumber word)

/-- The ranges that a text lists. -/
def ranges (text : String) : Array (Nat × Nat) := ((words text).map range).toArray

/-- Whether a character lies in some ranges. -/
def lists (ranges : Array (Nat × Nat)) (c : Char) : Bool :=
  inRanges ranges c.toNat 16 0 ranges.size

/-- What some characters are replaced by. -/
structure Rule where
  /-- The first of the characters. -/
  first : Nat
  /-- The last of them. -/
  last : Nat
  /-- The distance from each to the next. -/
  step : Nat
  /-- What replaces the first; what replaces the others lies as far behind as they do. -/
  image : List Nat
  deriving DecidableEq, Repr

namespace Rule

/-- The rule that a word denotes. -/
def ofWord (word : List Char) : Rule :=
  let (source, image) := (Text.cutFirst [':'] word).getD (word, [])
  let image := (Text.splitAll '.' image).map Escape.hexNumber
  match Text.cutFirst ['/'] source with
  | some (first, last) => ⟨Escape.hexNumber first, Escape.hexNumber last, 2, image⟩
  | none =>
    let (first, last) := range source
    ⟨first, last, 1, image⟩

/-- What a rule makes of a character; none if it is not about the character. -/
def image? (r : Rule) (c : Char) : Option (List Char) :=
  let n := c.toNat
  if r.first ≤ n ∧ n ≤ r.last ∧ (n - r.first) % r.step = 0 then
    some (r.image.map fun m => Char.ofNat (m + (n - r.first)))
  else none

end Rule

/-- The rules that a text lists. -/
def rules (text : String) : List Rule := (words text).map Rule.ofWord

end Table

end DomainName

end LintBridge
