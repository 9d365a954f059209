import LintBridge.Decimal.Binary

/-!
# JSON values

Numbers are whole, between `-2 ^ 63` and `2 ^ 64 - 1`, or doubles. The fields of an object stand in
the order of their keys; a key occurs once, with the value that was given last.

## Main definitions

* `Json` — a value.
* `Fields` — the fields of an object.
* `Fields.get?`, `Fields.insert`, `Fields.erase` — access to them by key.
-/

namespace LintBridge

/-- A JSON value. -/
inductive Json where
  | null
  | bool (b : Bool)
  | int (n : Int)
  | float (d : Double)
  | str (s : String)
  | arr (items : List Json)
  | obj (fields : List (String × Json))
  deriving Repr, Inhabited, BEq

/-- The fields of an object. -/
abbrev Fields := List (String × Json)

namespace Fields

/-- The value of a key. -/
def get? (key : String) : Fields → Option Json
  | [] => none
  | (k, v) :: rest => if k = key then some v else get? key rest

/-- Gives a key a value, in the place of any that it had. -/
def insert (key : String) (value : Json) : Fields → Fields
  | [] => [(key, value)]
  | (k, v) :: rest =>
    if key < k then (key, value) :: (k, v) :: rest
    else if key = k then (key, value) :: rest
    else (k, v) :: insert key value rest

/-- Takes a key away. -/
def erase (key : String) : Fields → Fields
  | [] => []
  | (k, v) :: rest => if k = key then rest else (k, v) :: erase key rest

/-- The fields given by a list, in which a later value of a key wins. -/
def ofList (fields : List (String × Json)) : Fields :=
  fields.foldl (fun acc (k, v) => insert k v acc) []

end Fields

namespace Json

/-- The object with the given fields. -/
def ofFields (fields : List (String × Json)) : Json := .obj (Fields.ofList fields)

/-- The fields, if the value is an object. -/
def fields? : Json → Option Fields
  | .obj fields => some fields
  | _ => none

/-- The items, if the value is an array. -/
def items? : Json → Option (List Json)
  | .arr items => some items
  | _ => none

/-- The text, if the value is a string. -/
def text? : Json → Option String
  | .str s => some s
  | _ => none

/-- The value of a key, if the value is an object that has the key. -/
def get? (key : String) (j : Json) : Option Json :=
  j.fields?.bind (Fields.get? key)

/-- The value that stands for a text that may be absent. -/
def ofText? : Option String → Json
  | some s => .str s
  | none => .null

/-- The number that a count is. -/
def ofNat (n : Nat) : Json := .int n

end Json

end LintBridge
