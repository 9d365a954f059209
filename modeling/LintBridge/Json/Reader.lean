import LintBridge.Json.Escape
import LintBridge.Json.Numeral

/-!
# Reading JSON

The reader accepts what the standard calls JSON and nothing else: no comments, no commas without a
value, no control characters within strings, no surrogates without their partner. Containers may be
nested to a depth of less than 128.

## Main definitions

* `Json.read?` — the value that a text denotes.
-/

namespace LintBridge

namespace Json

/-- The blanks between the tokens. -/
def isSpace (c : Char) : Bool := c = ' ' || c = '\t' || c = '\n' || c = '\r'

/-- A text without the blanks at its head. -/
def skipSpace (cs : List Char) : List Char := cs.dropWhile isSpace

/-- The rest of a string up to its closing quote; `acc` holds what was read, last first. -/
def readString? (acc : List Char) : (fuel : Nat) → List Char → Option (String × List Char)
  | 0, _ => none
  | _ + 1, [] => none
  | fuel + 1, c :: cs =>
    if c = Escape.quote then some (String.ofList acc.reverse, cs)
    else if c = Escape.backslash then
      match cs with
      | 'u' :: cs => do
        let (c, cs) ← Escape.unicode? cs
        readString? (c :: acc) fuel cs
      | c :: cs => do
        let c ← Escape.simple? c
        readString? (c :: acc) fuel cs
      | [] => none
    else if c.toNat < 0x20 then none
    else readString? (c :: acc) fuel cs

/-- The word `word` at the head of a text, standing for `value`. -/
def readWord? (word : String) (value : Json) (cs : List Char) : Option (Json × List Char) :=
  if word.toList.isPrefixOf cs then some (value, cs.drop word.length) else none

mutual

/-- The value at the head of a text. At most `depth` containers may contain it; `fuel` exceeds the
number of steps that a text of this length can need. -/
def readValue? (depth : Nat) : (fuel : Nat) → List Char → Option (Json × List Char)
  | 0, _ => none
  | fuel + 1, cs =>
    match skipSpace cs with
    | [] => none
    | c :: rest =>
      if c = '\x7b' then
        if depth ≤ 1 then none
        else
          match skipSpace rest with
          | d :: rest =>
            if d = '\x7d' then some (.obj [], rest)
            else (readFields? (depth - 1) fuel [] (d :: rest)).map fun (fs, rest) => (.obj fs, rest)
          | [] => none
      else if c = '[' then
        if depth ≤ 1 then none
        else
          match skipSpace rest with
          | ']' :: rest => some (.arr [], rest)
          | rest => (readItems? (depth - 1) fuel rest).map fun (js, rest) => (.arr js, rest)
      else if c = Escape.quote then
        (readString? [] (rest.length + 1) rest).map fun (s, rest) => (.str s, rest)
      else if c = 't' then readWord? "true" (.bool true) (c :: rest)
      else if c = 'f' then readWord? "false" (.bool false) (c :: rest)
      else if c = 'n' then readWord? "null" .null (c :: rest)
      else do
        let (x, rest) ← Numeral.scan? (c :: rest)
        let j ← x.value?
        some (j, rest)

/-- One item or more, up to the closing bracket. -/
def readItems? (depth : Nat) : (fuel : Nat) → List Char → Option (List Json × List Char)
  | 0, _ => none
  | fuel + 1, cs => do
    let (j, rest) ← readValue? depth fuel cs
    match skipSpace rest with
    | ',' :: rest => (readItems? depth fuel rest).map fun (js, rest) => (j :: js, rest)
    | ']' :: rest => some ([j], rest)
    | _ => none

/-- One field or more, up to the closing brace, added to those in `acc`. -/
def readFields? (depth : Nat) :
    (fuel : Nat) → Fields → List Char → Option (Fields × List Char)
  | 0, _, _ => none
  | fuel + 1, acc, cs =>
    match skipSpace cs with
    | c :: rest =>
      if c = Escape.quote then do
        let (key, rest) ← readString? [] (rest.length + 1) rest
        match skipSpace rest with
        | ':' :: rest =>
          let (j, rest) ← readValue? depth fuel rest
          let acc := Fields.insert key j acc
          match skipSpace rest with
          | ',' :: rest => readFields? depth fuel acc rest
          | d :: rest => if d = '\x7d' then some (acc, rest) else none
          | [] => none
        | _ => none
      else none
    | [] => none

end

/-- The value that a text denotes. -/
def read? (text : String) : Option Json :=
  let cs := text.toList
  match readValue? 128 (2 * cs.length + 2) cs with
  | some (j, rest) => if skipSpace rest = [] then some j else none
  | none => none

end Json

end LintBridge
