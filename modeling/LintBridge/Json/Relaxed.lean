import LintBridge.Json.Token

/-!
# Reading settings files

What the tokens of a settings file denote. A comma may follow the last item and the last field, and
may be missing anywhere, but it cannot stand alone. A field may be named by a bare word or a
numeral. A numeral that no number can hold denotes the text that it is written with.

## Main definitions

* `Token.value?` — what one token denotes.
* `Json.readRelaxed?` — what a text denotes.
-/

namespace LintBridge

namespace Token

/-- A numeral without its sign. -/
def unsigned : List Char → List Char
  | '+' :: cs => cs
  | '-' :: cs => cs
  | cs => cs

/-- What a numeral denotes. One in hexadecimal has 63 bits at most, besides its sign. -/
def numeralValue (written : List Char) : Json :=
  match unsigned written with
  | '0' :: x :: digits =>
    if x = 'x' ∨ x = 'X' then
      let n := Escape.hexNumber digits
      if n ≤ Decimal.maxSigned then .int (if written.head? = some '-' then -(n : Int) else n)
      else .str (String.ofList written)
    else decimalValue
  | _ => decimalValue
where
  /-- What a numeral in decimal denotes. -/
  decimalValue : Json :=
    let plain := match written with
      | '+' :: rest => rest
      | _ => written
    (Numeral.ofText? plain).getD (.str (String.ofList written))

/-- What a token denotes by itself. -/
def value? : Token → Option Json
  | .null => some .null
  | .bool b => some (.bool b)
  | .text s => some (.str s)
  | .numeral written => some (numeralValue written)
  | _ => none

/-- The name that a token gives to a field. -/
def fieldName? : Token → Option String
  | .text s => some s
  | .numeral written => some (String.ofList written)
  | .word written => some (String.ofList written)
  | _ => none

end Token

namespace Json

/-- The tokens without a comma at their head. -/
def skipComma : List Token → List Token
  | .comma :: rest => rest
  | tokens => tokens

mutual

/-- The value at the head of some tokens. -/
def takeValue? : (fuel : Nat) → List Token → Option (Json × List Token)
  | 0, _ => none
  | _ + 1, [] => none
  | fuel + 1, .openBrace :: rest => (takeFields? fuel [] rest).map fun (fs, rest) => (.obj fs, rest)
  | fuel + 1, .openBracket :: rest => (takeItems? fuel rest).map fun (js, rest) => (.arr js, rest)
  | _ + 1, token :: rest => token.value?.map fun j => (j, rest)

/-- The items up to the closing bracket. -/
def takeItems? : (fuel : Nat) → List Token → Option (List Json × List Token)
  | 0, _ => none
  | _ + 1, .closeBracket :: rest => some ([], rest)
  | fuel + 1, tokens => do
    let (j, rest) ← takeValue? fuel tokens
    let (js, rest) ← takeItems? fuel (skipComma rest)
    some (j :: js, rest)

/-- The fields up to the closing brace, added to those in `acc`. -/
def takeFields? : (fuel : Nat) → Fields → List Token → Option (Fields × List Token)
  | 0, _, _ => none
  | _ + 1, acc, .closeBrace :: rest => some (acc, rest)
  | fuel + 1, acc, token :: .colon :: rest => do
    let key ← token.fieldName?
    let (j, rest) ← takeValue? fuel rest
    takeFields? fuel (Fields.insert key j acc) (skipComma rest)
  | _ + 1, _, _ => none

end

/-- What a text denotes: perhaps nothing, if it is all blanks and comments; `none` if it is not in
the notation. -/
def readRelaxed? (text : String) : Option (Option Json) :=
  match Token.readAll? text.toList with
  | none => none
  | some [] => some none
  | some tokens =>
    match takeValue? (2 * tokens.length) tokens with
    | some (j, []) => some (some j)
    | _ => none

end Json

end LintBridge
