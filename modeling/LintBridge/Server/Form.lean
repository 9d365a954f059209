import LintBridge.Decimal.Whole
import LintBridge.Json.Basic
import LintBridge.Uri.Reader

/-!
# Forms

A form reads a JSON value as something of a type, or refuses it. The forms of the editor's messages
are made of a few simple ones. A record may come as an object, whose parts are found by their names
and which may have others that are not asked for, or as an array, whose items are the parts in their
order and which must have no others.

## Main definitions

* `Form` — reads a value.
* `Form.record`, `Form.flatRecord` — read the parts of a record.
* `PartForm.required`, `PartForm.nullable`, `PartForm.omissible` — read one of its parts.
* `Form.variant` — reads one of several alternatives that have nothing but a name.
* `Form.tagged` — reads a record whose kind is told by one of its parts.
-/

namespace LintBridge

/-- Reads a JSON value as an `α`, or refuses it. -/
abbrev Form (α : Type) := Json → Option α

/-- The parts of a record that are still to be read. -/
inductive Parts where
  /-- The parts of an object are found by name. -/
  | named (fields : Fields)
  /-- The parts of an array come in their order. -/
  | placed (items : List Json)

/-- Reads some parts of a record. -/
abbrev PartForm (α : Type) := StateT Parts Option α

namespace PartForm

/-- A part that must be there. -/
def required {α : Type} (name : String) (form : Form α) : PartForm α
  | .named fields => do
    let value ← fields.get? name
    let a ← form value
    some (a, .named fields)
  | .placed [] => none
  | .placed (item :: items) => (form item).map fun a => (a, .placed items)

/-- Reads a value that may be null. -/
def orNull {α : Type} (form : Form α) : Form (Option α)
  | .null => some none
  | j => (form j).map some

/-- A part that may be null, or be missing in an object. -/
def nullable {α : Type} (name : String) (form : Form α) : PartForm (Option α)
  | .named fields => ((orNull form) ((fields.get? name).getD .null)).map (·, .named fields)
  | parts => required name (orNull form) parts

/-- A part that may be null or be missing. -/
def omissible {α : Type} (name : String) (form : Form α) : PartForm (Option α)
  | .placed [] => some (none, .placed [])
  | parts => nullable name form parts

/-- A part that may be missing, but not be null. -/
def defaulted {α : Type} (name : String) (form : Form α) (default : α) : PartForm α
  | .named fields =>
    match fields.get? name with
    | some value => (form value).map (·, .named fields)
    | none => some (default, .named fields)
  | .placed [] => some (default, .placed [])
  | parts => required name form parts

/-- All parts of an object that have other names than the given ones. -/
def others {α : Type} (names : List String) (form : Form α) : PartForm Unit
  | .named fields =>
    if fields.all fun (name, value) => names.contains name || (form value).isSome then
      some ((), .named fields)
    else none
  | parts => some ((), parts)

end PartForm

namespace Form

/-! ### Simple values -/

/-- Any value. -/
def any : Form Json := some

/-- A text. -/
def text : Form String := Json.text?

/-- A truth value. -/
def truth : Form Bool
  | .bool b => some b
  | _ => none

/-- A whole number between two bounds. -/
def between (least greatest : Int) : Form Int
  | .int n => if least ≤ n ∧ n ≤ greatest then some n else none
  | _ => none

/-- A signed number of 32 bits. -/
def signed : Form Int := between (-2147483648) 2147483647

/-- An unsigned number of 32 bits. -/
def unsigned : Form Int := between 0 Decimal.maxWord

/-- A number, whole or not. -/
def number : Form Unit
  | .int _ => some ()
  | .float _ => some ()
  | _ => none

/-- The address of a document or of a folder. -/
def uri : Form Uri
  | .str s => Uri.read? s
  | _ => none

/-- One of several words. -/
def word (words : List String) : Form String
  | .str s => if s ∈ words then some s else none
  | _ => none

/-- One of several alternatives. It comes as its name, or as the name of a field that holds nothing.
-/
def variant (names : List String) : Form String
  | .obj [(name, .null)] => word names (.str name)
  | j => word names j

/-! ### Composed values -/

/-- A list of values of one form. -/
def list {α : Type} (form : Form α) : Form (List α)
  | .arr items => items.mapM form
  | _ => none

/-- What one of two forms reads, the first one if both can. -/
def either {α : Type} (a b : Form α) : Form α := fun j => a j <|> b j

/-- Reads a value for its shape only. -/
def shape {α : Type} (form : Form α) : Form Unit := fun j => (form j).map fun _ => ()

/-- An object with any fields, the names of one form and the values of another. -/
def dictionary {α β : Type} (key : Form α) (form : Form β) : Form Unit
  | .obj fields =>
    if fields.all fun (k, v) => (key (.str k)).isSome && (form v).isSome then some () else none
  | _ => none

/-- A record that comes as an object or as an array. -/
def record {α : Type} (part : PartForm α) : Form α
  | .obj fields => (part (.named fields)).map Prod.fst
  | .arr items =>
    match part (.placed items) with
    | some (a, .placed []) => some a
    | _ => none
  | _ => none

/-- The number of an alternative, which comes by its name or by the number itself. -/
def alternative (names : List String) : Form Nat
  | .str s => names.findIdx? (· = s)
  | .int (.ofNat n) => if n < names.length then some n else none
  | _ => none

/-- A record of several kinds. The kind is told by a part with a name, which is the first one in an
array; the other parts are those of the kind. -/
def tagged {α : Type} (tag : String) (kinds : List (String × Form α)) : Form α := fun j => do
  let (kind, rest) ← match j with
    | .obj fields =>
      (Fields.get? tag fields).map fun kind => (kind, Json.obj (Fields.erase tag fields))
    | .arr (kind :: rest) => some (kind, Json.arr rest)
    | _ => none
  let n ← alternative (kinds.map Prod.fst) kind
  let (_, form) ← (kinds.drop n).head?
  form rest

/-- A record that comes as an object only. -/
def flatRecord {α : Type} (part : PartForm α) : Form α
  | .obj fields => (part (.named fields)).map Prod.fst
  | _ => none

end Form

end LintBridge
