import LintBridge.Text.Utf8

/-!
# Commands of shell scripts

Linters, and the wrappers around them, are often shell scripts. To rehearse a run without leaving
the machine, the bridge has an interpreter for them. This module holds what a script consists of.

## Main definitions

* `Script.Piece` — a part of a word; a word is a list of these.
* `Script.Redirect` — where a descriptor of a command leads.
* `Script.Command` — a command.
-/

namespace LintBridge

namespace Script

/-- How the value of a variable is replaced when it is missing, or when it is not. -/
inductive Fallback where
  /-- The word stands for a missing value. -/
  | instead
  /-- The word stands for a missing value and is assigned to the variable. -/
  | assigned
  /-- The word stands for a value that is there. -/
  | whenSet
  /-- A missing value ends the script with the word as its message. -/
  | failing
  deriving DecidableEq, Repr

/-- What a redirection does with its word. -/
inductive RedirectKind where
  | read
  | write
  | append
  /-- The word is the number of another descriptor. -/
  | duplicate
  /-- The word is what is read. -/
  | document
  deriving DecidableEq, Repr

mutual

/-- A part of a word. -/
inductive Piece where
  | text (bytes : Bytes) (isQuoted : Bool)
  /-- The value of a variable or a parameter. -/
  | value (name : Bytes) (isQuoted : Bool)
  /-- The length of a value. -/
  | length (name : Bytes) (isQuoted : Bool)
  /-- A value with a replacement. Unless `onlyUnset`, an empty value counts as missing. -/
  | fallback (kind : Fallback) (onlyUnset : Bool) (name : Bytes) (word : List Piece)
      (isQuoted : Bool)
  /-- A value without the part at one end that a pattern matches. -/
  | trimmed (atEnd isLongest : Bool) (name : Bytes) (pattern : List Piece) (isQuoted : Bool)
  /-- What a command writes. -/
  | output (body : Command) (isQuoted : Bool)
  /-- The value of an arithmetic expression. -/
  | number (expression : List Piece) (isQuoted : Bool)
  /-- A parameter in braces with a mark that means nothing. -/
  | senseless

/-- Where a descriptor leads while a command runs. -/
inductive Redirect where
  | mk (descriptor : Nat) (kind : RedirectKind) (word : List Piece)

/-- A command. -/
inductive Command where
  | nothing
  /-- Assignments, a program with its arguments, and redirections. The command begins where `left`
  bytes are left of the script. -/
  | simple (left : Nat) (assignments : List (Bytes × List Piece)) (words : List (List Piece))
      (redirects : List Redirect)
  /-- One command after another. -/
  | sequence (first second : Command)
  /-- The second command runs only if the first succeeds. -/
  | both (first second : Command)
  /-- The second command runs only if the first fails. -/
  | either (first second : Command)
  /-- The second command reads what the first writes. -/
  | piped (first second : Command)
  /-- Nothing waits for the command. -/
  | background (body : Command)
  | negated (body : Command)
  /-- Commands in braces. -/
  | grouped (body : Command) (redirects : List Redirect)
  /-- Commands in parentheses: they cannot change the variables outside. -/
  | separate (body : Command) (redirects : List Redirect)
  | conditional (condition whenTrue whenFalse : Command) (redirects : List Redirect)
  /-- Repeated while the condition succeeds, or until it does. -/
  | repeated (isUntil : Bool) (condition body : Command) (redirects : List Redirect)
  /-- Repeated for each word, or for each parameter if there are no words. -/
  | each (name : Bytes) (words : Option (List (List Piece))) (body : Command)
      (redirects : List Redirect)
  /-- The first arm with a pattern that matches the word. -/
  | choice (word : List Piece) (arms : List (List (List Piece) × Command))
      (redirects : List Redirect)
  | definition (name : Bytes) (body : Command)

end

instance : Inhabited Command := ⟨.nothing⟩

/-- A word of a script. -/
abbrev Word := List Piece

/-- The bytes of a text, for comparison with those of a script. -/
def ascii (s : String) : Bytes := s.toList.map fun c => c.toNat.toUInt8

/-- The byte of an ASCII character. -/
def byte (c : Char) : UInt8 := c.toNat.toUInt8

end Script

end LintBridge
