import LintBridge.Json.Escape
import LintBridge.Json.Numeral
import LintBridge.Text.Alphanumeric

/-!
# Tokens of settings files

Settings files are written by hand, in a notation that is wider than JSON: comments of two kinds,
strings in either kind of quotes, numerals with a plus sign or in hexadecimal, and bare words.
Blanks and comments separate the tokens and are no tokens themselves.

## Main definitions

* `Token` — a token.
* `Token.readAll?` — the tokens of a text.
-/

namespace LintBridge

/-- A token of a settings file. -/
inductive Token where
  | openBrace
  | closeBrace
  | openBracket
  | closeBracket
  | comma
  | colon
  | null
  | bool (b : Bool)
  /-- A string, by what it denotes. -/
  | text (s : String)
  /-- A numeral, as it is written. -/
  | numeral (written : List Char)
  /-- A bare word. -/
  | word (written : List Char)
  deriving DecidableEq, Repr

namespace Token

/-- The text after a comment that reaches to the end of its line. The line feed, and a carriage
return before it, stay. -/
def skipLineComment : List Char → List Char
  | [] => []
  | c :: cs =>
    if c = '\n' ∨ (c = '\r' ∧ cs.head? = some '\n') then c :: cs else skipLineComment cs

/-- The text after a comment that is closed by a star and a slash; `none` if it is not closed. -/
def skipBlockComment? : List Char → Option (List Char)
  | [] => none
  | '*' :: '/' :: cs => some cs
  | _ :: cs => skipBlockComment? cs

/-- The character that the letter `c` after a backslash denotes between the quotes `delimiter`. Each
kind of quote can be escaped only where it has to be. -/
def readEscape? (delimiter c : Char) : Option Char :=
  if c = Escape.quote ∨ c = Escape.apostrophe then
    if c = delimiter then some c else none
  else Escape.simple? c

/-- The rest of a string up to its closing quote. Control characters stand for themselves. `acc`
holds what was read, last first. -/
def readString? (delimiter : Char) (acc : List Char) :
    (fuel : Nat) → List Char → Option (String × List Char)
  | 0, _ => none
  | _ + 1, [] => none
  | fuel + 1, c :: cs =>
    if c = delimiter then some (String.ofList acc.reverse, cs)
    else if c = Escape.backslash then
      match cs with
      | 'u' :: cs => do
        let (c, cs) ← Escape.unicode? cs
        readString? delimiter (c :: acc) fuel cs
      | c :: cs => do
        let c ← readEscape? delimiter c
        readString? delimiter (c :: acc) fuel cs
      | [] => none
    else readString? delimiter (c :: acc) fuel cs

/-- The characters of bare words. -/
def isWordChar (c : Char) : Bool := isAlphanumeric c || c = '-' || c = '_'

/-- What ends a bare word. -/
def endsWord (c : Char) : Bool := isBlank c || c = ':'

/-- The bare word at the head of a text. A word reaches to the next blank or colon, and nothing but
the characters of words may come before that. -/
def readWord? (cs : List Char) : Option (List Char × List Char) :=
  let word := cs.takeWhile (!endsWord ·)
  if word ≠ [] ∧ word.all isWordChar then some (word, cs.dropWhile (!endsWord ·)) else none

/-- The text after the name `name` at its head, unless a letter or a digit follows. -/
def afterName? (name : List Char) (cs : List Char) : Option (List Char) :=
  if name.isPrefixOf cs then
    let rest := cs.drop name.length
    if rest.head?.any isAlphanumeric then none else some rest
  else none

/-- The hexadecimal digits. -/
def isHexDigit (c : Char) : Bool := (Escape.hexValue? c).isSome

/-- The text after the numeral without its sign at the head of `cs`. -/
def afterUnsigned? (cs : List Char) : Option (List Char) :=
  match cs with
  | '0' :: x :: rest =>
    if x = 'x' ∨ x = 'X' then
      if rest.head?.any isHexDigit then some (rest.dropWhile isHexDigit) else none
    else (Numeral.scanUnsigned? false cs).map Prod.snd
  | _ => (Numeral.scanUnsigned? false cs).map Prod.snd

/-- The numeral at the head of a text, which begins with a digit or a sign. -/
def readNumeral? (cs : List Char) : Option (List Char × List Char) := do
  let rest ← afterUnsigned? (match cs with
    | '+' :: rest => rest
    | '-' :: rest => rest
    | _ => cs)
  some (cs.take (cs.length - rest.length), rest)

/-- The word or the name at the head of a text. -/
def readName? (cs : List Char) : Option (Token × List Char) :=
  match afterName? ['t', 'r', 'u', 'e'] cs with
  | some rest => some (.bool true, rest)
  | none =>
    match afterName? ['f', 'a', 'l', 's', 'e'] cs with
    | some rest => some (.bool false, rest)
    | none =>
      match afterName? ['n', 'u', 'l', 'l'] cs with
      | some rest => some (.null, rest)
      | none => (readWord? cs).map fun (written, rest) => (.word written, rest)

/-- The token that begins with the character `c`. -/
def read? (c : Char) (cs : List Char) : Option (Token × List Char) :=
  if c = '\x7b' then some (.openBrace, cs)
  else if c = '\x7d' then some (.closeBrace, cs)
  else if c = '[' then some (.openBracket, cs)
  else if c = ']' then some (.closeBracket, cs)
  else if c = ',' then some (.comma, cs)
  else if c = ':' then some (.colon, cs)
  else if c = Escape.quote ∨ c = Escape.apostrophe then
    (readString? c [] (cs.length + 1) cs).map fun (s, rest) => (.text s, rest)
  else if c = '+' ∨ c = '-' ∨ Decimal.isDigit c then
    (readNumeral? (c :: cs)).map fun (written, rest) => (.numeral written, rest)
  else readName? (c :: cs)

/-- The tokens at the head of a text of at most `fuel` characters. -/
def readFrom? : (fuel : Nat) → List Char → Option (List Token)
  | _, [] => some []
  | 0, _ :: _ => none
  | fuel + 1, c :: cs =>
    if isBlank c then readFrom? fuel cs
    else if c = '/' then
      match cs with
      | '/' :: rest => readFrom? fuel (skipLineComment rest)
      | '*' :: rest => (skipBlockComment? rest).bind (readFrom? fuel)
      | _ => none
    else do
      let (token, rest) ← read? c cs
      let tokens ← readFrom? fuel rest
      some (token :: tokens)

/-- The tokens of a text, or `none` if some part of it is no token. -/
def readAll? (cs : List Char) : Option (List Token) :=
  readFrom? cs.length cs

end Token

end LintBridge
