import LintBridge.Script.Pattern
import LintBridge.Script.Start
import LintBridge.Script.Tools

/-!
# The state of a shell

A shell holds variables, parameters and descriptors while it runs a script on a machine. What comes
next after a command is its flow: usually the next command, but a command can also end the script or
leave a loop.

## Main definitions

* `Flow` — what comes next after a command.
* `Shell` — the state of a shell.
* `Shell.value?` — the value of a variable or a parameter.
* `Shell.fieldsOf` — divides what a word has become into fields.
-/

namespace LintBridge

namespace Script

/-- What comes next after a command. -/
inductive Flow where
  /-- The next command. -/
  | next
  /-- The shell has ended. -/
  | exited
  /-- A signal has ended the shell. -/
  | killed (signal : Nat)
  /-- So many loops are left. -/
  | broken (loops : Nat)
  /-- So many loops are left, and the last of them goes on with its next round. -/
  | continued (loops : Nat)
  /-- The function is left. -/
  | returned
  deriving DecidableEq, Repr

/-- How a shell runs commands. -/
structure Modes where
  /-- Whether a command that fails ends the shell. -/
  stopsOnError : Bool
  /-- Whether a variable that is missing ends the shell. -/
  stopsOnUnset : Bool
  /-- Whether patterns are left as they are. -/
  keepsPatterns : Bool
  /-- Whether commands are told before they run. -/
  tellsCommands : Bool
  deriving DecidableEq, Repr

/-- The modes of a shell unless it is told otherwise. -/
def Modes.usual : Modes := ⟨false, false, false, false⟩

/-- The modes with the one of a letter on or off; none if there is no such mode. -/
def Modes.set? (m : Modes) (isOn : Bool) (letter : UInt8) : Option Modes :=
  if letter = byte 'e' then some { m with stopsOnError := isOn }
  else if letter = byte 'u' then some { m with stopsOnUnset := isOn }
  else if letter = byte 'f' then some { m with keepsPatterns := isOn }
  else if letter = byte 'x' then some { m with tellsCommands := isOn }
  else if (ascii "abCmnvVEI").contains letter then some m
  else none

/-- The letters of the modes that are on. -/
def Modes.letters (m : Modes) : Bytes :=
  (if m.stopsOnUnset then ascii "u" else []) ++ (if m.tellsCommands then ascii "x" else [])
    ++ (if m.keepsPatterns then ascii "f" else []) ++ (if m.stopsOnError then ascii "e" else [])

/-- The state of a shell. -/
structure Shell where
  machine : Machine
  bindings : List (Bytes × Bytes)
  /-- The bindings that programs see. -/
  exported : List Bytes
  functions : List (Bytes × Command)
  /-- The name under which the shell was started. -/
  name : Bytes
  parameters : List Bytes
  /-- The text that is being run, from which lines are counted. -/
  script : Bytes
  /-- The line of the command that runs. -/
  line : Nat
  /-- Where the descriptors lead. -/
  descriptors : List (Nat × Descriptor)
  cwd : Place
  process : Nat
  /-- The status of the last command. -/
  status : Nat
  /-- The signal that ended the last program, if one did. -/
  signal : Option Nat
  modes : Modes
  /-- Whether the status of the command is about to be tested. -/
  isTested : Bool
  /-- The variables that cannot be changed. -/
  frozen : List Bytes
  /-- What is done on a signal, or, under zero, at the end of the shell. -/
  traps : List (Nat × Bytes)
  /-- What has to be done on signals that have come. -/
  pending : List Bytes
  /-- The values that variables had before a function, while one runs. -/
  saved : Option (List (Bytes × Option Bytes))
  /-- The commands that were started in the background, with their status, the last one first. -/
  children : List (Nat × Nat)
  flow : Flow

namespace Shell

/-- Whether the next command can run. -/
def goesOn (s : Shell) : Bool := s.flow = .next && !s.machine.isOver

/-- The shell with another status. -/
def withStatus (s : Shell) (status : Nat) : Shell := { s with status := status }

/-- Ends the shell. -/
def leave (s : Shell) (status : Nat) : Shell := { s with status := status, flow := .exited }

/-! ### Variables -/

/-- The entries of a table with another value for a key. -/
def setIn (name value : Bytes) : List (Bytes × Bytes) → List (Bytes × Bytes)
  | [] => [(name, value)]
  | (n, v) :: rest => if n = name then (n, value) :: rest else (n, v) :: setIn name value rest

/-- Gives a variable a value. -/
def assign (s : Shell) (name value : Bytes) : Shell :=
  { s with bindings := setIn name value s.bindings }

/-- Whether a variable cannot be changed. -/
def isFrozen (s : Shell) (name : Bytes) : Bool := s.frozen.contains name

/-- Takes a variable away. -/
def unset (s : Shell) (name : Bytes) : Shell :=
  { s with
    bindings := s.bindings.filter fun (n, _) => n ≠ name
    exported := s.exported.filter (· ≠ name) }

/-- Lets programs see a variable. -/
def publish (s : Shell) (name : Bytes) : Shell :=
  if s.exported.contains name then s else { s with exported := s.exported ++ [name] }

/-- What programs see of the bindings. -/
def environment (s : Shell) : List (Bytes × Bytes) :=
  s.bindings.filter fun (n, _) => s.exported.contains n

/-- The bytes at which fields end. -/
def separators (s : Shell) : Bytes :=
  (s.bindings.lookup (ascii "IFS")).getD [32, 9, newline]

/-- A number as it is written in scripts. -/
def numeral (n : Nat) : Bytes := ascii (toString n)

/-- The value of a variable or a parameter. -/
def value? (s : Shell) (name : Bytes) : Option Bytes :=
  match name with
  | [b] =>
    if b = byte '#' then some (numeral s.parameters.length)
    else if b = byte '?' then some (numeral s.status)
    else if b = byte '$' then some (numeral s.process)
    else if b = byte '-' then some s.modes.letters
    else if b = byte '!' then s.children.head?.map fun (process, _) => numeral process
    else if b = byte '@' ∨ b = byte '*' then
      if s.parameters = [] then none
      else some ((s.separators.take 1).intercalate s.parameters)
    else if isDigitByte b then
      if b = byte '0' then some s.name else s.parameters[digitsNumber [b] - 1]?
    else s.bindings.lookup name
  | _ =>
    if name.all isDigitByte then s.parameters[digitsNumber name - 1]?
    else s.bindings.lookup name

/-! ### Descriptors -/

/-- Where a descriptor leads. -/
def descriptor? (s : Shell) (number : Nat) : Option Descriptor := s.descriptors.lookup number

/-- Lets a descriptor lead somewhere else, or nowhere. -/
def setDescriptor (s : Shell) (number : Nat) (d : Option Descriptor) : Shell :=
  let others := s.descriptors.filter fun (n, _) => n ≠ number
  match d with
  | some d => { s with descriptors := (number, d) :: others }
  | none => { s with descriptors := others }

/-- A call of a program by this shell. -/
def call (s : Shell) (name title : Bytes) (arguments : List Bytes) : Call :=
  ⟨name, title, arguments, s.cwd, s.descriptor? 0, s.descriptor? 1, s.descriptor? 2⟩

/-- What introduces the complaints of the shell: its name and the line. -/
def title (s : Shell) : Bytes := s.name ++ ascii ": " ++ numeral s.line

/-- Writes to the output. -/
def say (s : Shell) (text : Bytes) : Shell :=
  { s with machine := s.machine.write (s.descriptor? 1) text }

/-- Writes to the errors. -/
def warn (s : Shell) (text : Bytes) : Shell :=
  { s with machine := s.machine.write (s.descriptor? 2) text }

/-- Complains. -/
def complain (s : Shell) (text : Bytes) : Shell :=
  s.warn (s.title ++ ascii ": " ++ text ++ [newline])

/-! ### Fields -/

/-- A part of what a word has become. -/
inductive Mark where
  /-- A byte of the word itself, or one that is quoted. -/
  | fixed (b : UInt8) (isQuoted : Bool)
  /-- A byte at which a field may end. -/
  | free (b : UInt8)
  /-- A field ends here. -/
  | cut
  /-- There is a field here, even an empty one. -/
  | present

/-- The marks of a value. -/
def marksOf (isQuoted : Bool) (bytes : Bytes) : List Mark :=
  bytes.map fun b => if isQuoted then .fixed b true else .free b

/-- A field that is being put together. -/
structure Splitting where
  /-- The fields that are complete, the last one first. -/
  done : List Field
  /-- The field so far, its last byte first; none if nothing has begun. -/
  current : Option Field
  /-- Whether blanks have ended the last field. -/
  afterBlanks : Bool

/-- The splitting after a mark. -/
def Splitting.push (separators : Bytes) (p : Splitting) : Mark → Splitting
  | .fixed b q => ⟨p.done, some ((b, q) :: p.current.getD []), false⟩
  | .present => ⟨p.done, some (p.current.getD []), false⟩
  | .cut => ⟨(p.current.getD []).reverse :: p.done, none, false⟩
  | .free b =>
    if !separators.contains b then ⟨p.done, some ((b, false) :: p.current.getD []), false⟩
    else if isBlankByte b || b = newline then
      match p.current with
      | some f => ⟨f.reverse :: p.done, none, true⟩
      | none => p
    else if p.current.isNone && p.afterBlanks then { p with afterBlanks := false }
    else ⟨(p.current.getD []).reverse :: p.done, none, false⟩

/-- The fields that some marks make. -/
def fieldsOf (s : Shell) (marks : List Mark) : List Field :=
  let p := marks.foldl (Splitting.push s.separators) ⟨[], none, false⟩
  match p.current with
  | some f => (f.reverse :: p.done).reverse
  | none => p.done.reverse

/-- The marks as one field. -/
def fieldOf (marks : List Mark) : Field :=
  marks.flatMap fun
    | .fixed b q => [(b, q)]
    | .free b => [(b, false)]
    | .cut => [(32, false)]
    | .present => []

/-- The bytes of a field. -/
def plain (f : Field) : Bytes := f.map Prod.fst

/-- The marks of all parameters: one field for each if they are quoted. -/
def parameterMarks (s : Shell) (isQuoted : Bool) : List Mark :=
  let each (p : Bytes) : List Mark :=
    (if isQuoted then [.present] else []) ++ marksOf isQuoted p
  [Mark.cut].intercalate (s.parameters.map each)

/-- The marks of the value of a name. -/
def valueMarks (s : Shell) (name : Bytes) (isQuoted : Bool) : List Mark :=
  if name = ascii "@" ∨ (name = ascii "*" ∧ !isQuoted) then s.parameterMarks isQuoted
  else marksOf isQuoted ((s.value? name).getD [])

end Shell

end Script

end LintBridge
