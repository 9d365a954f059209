import LintBridge.Decimal.Whole

/-!
# Switches

A switch is a word of the command line that begins with a dash. It has a long name and perhaps a
letter, and it either stands alone or takes a value.

## Main definitions

* `ValueKind` — what values a switch takes.
* `Switch` — a switch.
* `Word` — how a word of the command line looks.
-/

namespace LintBridge

/-- What values a switch takes. -/
inductive ValueKind where
  /-- Any text, even an empty one. -/
  | text
  /-- One of some words. -/
  | word (choices : List String)
  /-- A whole number that fits in 64 bits. -/
  | number
  deriving DecidableEq, Repr

namespace ValueKind

/-- The number that a text denotes. -/
def number? (value : String) : Option Nat := Decimal.readWhole? Decimal.maxLong value.toList

/-- Whether a value is of the kind. -/
def accepts : ValueKind → String → Bool
  | text, _ => true
  | word choices, value => value ∈ choices
  | number, value => (number? value).isSome

end ValueKind

/-- What a switch does. -/
inductive SwitchKind where
  /-- The switch stands alone. -/
  | flag
  /-- The switch asks for help. -/
  | help
  /-- The switch asks for the version. -/
  | version
  /-- The switch takes a value; `label` stands for it in the help. -/
  | value (label : String) (kind : ValueKind) (default : Option String)
  deriving DecidableEq, Repr

/-- A switch. -/
structure Switch where
  letter : Option Char
  name : String
  kind : SwitchKind
  /-- What the help tells of it. -/
  about : String
  deriving DecidableEq, Repr

/-- How a word of the command line looks. -/
inductive Word where
  /-- Two dashes: all words after them are operands. -/
  | rest
  /-- A long name, and a value if there is an equals sign. -/
  | long (name : String) (value : Option String)
  /-- One or more letters after a dash. -/
  | letters (cs : List Char)
  /-- A word that is no switch. A single dash is one of these. -/
  | plain
  deriving DecidableEq, Repr

namespace Word

/-- A long name with the value that may be attached to it. -/
def ofLong (cs : List Char) : Word :=
  match cs.span (· ≠ '=') with
  | (name, _ :: value) => long (.ofList name) (some (.ofList value))
  | (name, []) => long (.ofList name) none

/-- How a word looks. -/
def ofChars : List Char → Word
  | ['-', '-'] => rest
  | '-' :: '-' :: cs => ofLong cs
  | '-' :: c :: cs => letters (c :: cs)
  | _ => plain

/-- How a word looks. -/
def ofString (s : String) : Word := ofChars s.toList

end Word

end LintBridge
