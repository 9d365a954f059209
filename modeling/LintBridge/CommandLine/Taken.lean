import LintBridge.CommandLine.Usage

/-!
# Taking words

The words of a command line are taken one after another, as a usage allows. The first one that is
not allowed, or that asks for help or for the version, ends it. A switch may be given once only.

## Main definitions

* `Taken` — what was taken.
* `Halt` — why no more words are taken.
* `Usage.take` — takes the words of a command.
-/

namespace LintBridge

/-- What was taken from a command line. -/
structure Taken where
  /-- The switches by name, with their values; the value of a flag is empty. -/
  switches : List (String × String)
  operands : List String
  deriving DecidableEq, Repr

/-- Why no more words are taken. -/
inductive Halt where
  | help
  | version
  | misuse
  deriving DecidableEq, Repr

namespace Taken

/-- Nothing. -/
def nothing : Taken := ⟨[], []⟩

/-- The value of a switch that was given. -/
def value? (t : Taken) (name : String) : Option String := t.switches.lookup name

/-- Whether a switch was given. -/
def has (t : Taken) (name : String) : Bool := (t.value? name).isSome

/-- Takes a switch, unless it was given before. -/
def add (t : Taken) (name value : String) : Except Halt Taken :=
  if t.has name then .error .misuse else .ok { t with switches := (name, value) :: t.switches }

/-- Takes a switch without a value. -/
def addBare (t : Taken) (s : Switch) : Except Halt Taken :=
  match s.kind with
  | .flag => t.add s.name ""
  | .help => .error .help
  | .version => .error .version
  | .value _ _ _ => .error .misuse

/-- Takes a switch with a value. -/
def addValue (t : Taken) (s : Switch) (value : String) : Except Halt Taken :=
  match s.kind with
  | .value _ kind _ => if kind.accepts value then t.add s.name value else .error .misuse
  | _ => .error .misuse

end Taken

/-- Whether a switch takes a value. -/
def Switch.takesValue (s : Switch) : Bool :=
  match s.kind with
  | .value _ _ _ => true
  | _ => false

namespace Usage

/-- The switch of a name. -/
def named? (u : Usage) (name : String) : Option Switch := u.switches.find? fun s => s.name = name

/-- The switch of a letter. -/
def lettered? (u : Usage) (c : Char) : Option Switch :=
  u.switches.find? fun s => s.letter = some c

/-- The value that is attached to a letter. -/
def attached : List Char → String
  | '=' :: cs => .ofList cs
  | cs => .ofList cs

/-- Takes the switches of a row of letters. The last one may still want a value, which is the next
word then. -/
def takeLetters (u : Usage) (t : Taken) : List Char → Except Halt (Taken × Option Switch)
  | [] => .ok (t, none)
  | c :: cs =>
    match u.lettered? c with
    | none => .error .misuse
    | some s =>
      if s.takesValue then
        if cs = [] then .ok (t, some s) else (t.addValue s (attached cs)).map (·, none)
      else
        match t.addBare s with
        | .ok t => u.takeLetters t cs
        | .error h => .error h

/-- Takes the switch of a long name. It may still want a value, which is the next word then. -/
def takeLong (u : Usage) (t : Taken) (name : String) (value : Option String) :
    Except Halt (Taken × Option Switch) :=
  match u.named? name, value with
  | none, _ => .error .misuse
  | some s, some v => (t.addValue s v).map (·, none)
  | some s, none => if s.takesValue then .ok (t, some s) else (t.addBare s).map (·, none)

/-- Takes an operand, which must not be empty. -/
def takeOperand (u : Usage) (t : Taken) (word : String) : Except Halt Taken :=
  if u.operand.isNone ∨ word = "" then .error .misuse
  else .ok { t with operands := t.operands ++ [word] }

/-- Takes words that are all operands. -/
def takeOperands (u : Usage) (t : Taken) (words : List String) : Except Halt Taken :=
  words.foldlM u.takeOperand t

/-- Takes words until there are no more of them, or until the name of a command comes; the name and
what follows it are left. -/
def takeWords (u : Usage) (t : Taken) : List String → Except Halt (Taken × List String)
  | [] => .ok (t, [])
  | w :: ws =>
    let goOn : Except Halt (Taken × Option Switch) → Except Halt (Taken × List String)
      | .error h => .error h
      | .ok (t, none) => takeWords u t ws
      | .ok (t, some s) =>
        match ws with
        | [] => .error .misuse
        | v :: rest =>
          if Word.ofString v = .plain then
            match t.addValue s v with
            | .ok t => takeWords u t rest
            | .error h => .error h
          else .error .misuse
    match Word.ofString w with
    | .rest => (u.takeOperands t ws).map (·, [])
    | .long name value => goOn (u.takeLong t name value)
    | .letters cs => goOn (u.takeLetters t cs)
    | .plain =>
      if u.commands ≠ [] then .ok (t, w :: ws)
      else
        match u.takeOperand t w with
        | .ok t => takeWords u t ws
        | .error h => .error h

/-- Whether what was taken is complete. -/
def isComplete (u : Usage) (t : Taken) : Bool :=
  match u.operand with
  | some o => !o.isRequired || !t.operands.isEmpty
  | none => true

/-- Takes the words of a command that has no commands below it. -/
def take (u : Usage) (words : List String) : Except Halt Taken :=
  match u.takeWords .nothing words with
  | .error h => .error h
  | .ok (t, _) => if u.isComplete t then .ok t else .error .misuse

end Usage

end LintBridge
