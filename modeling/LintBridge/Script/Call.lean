import LintBridge.Script.Machine
import LintBridge.Script.Reader

/-!
# Calls of programs

How a program of the system is called, how it complains, and how it takes its arguments apart.

## Main definitions

* `Script.Call` — how a program is called.
* `Script.splitOptions` — divides arguments into options and operands.
* `Script.readOperands` — the content of each operand.
-/

namespace LintBridge

namespace Script

/-- How a program is called. -/
structure Call where
  /-- The name under which it was called. -/
  name : Bytes
  /-- What introduces its complaints. -/
  title : Bytes
  arguments : List Bytes
  cwd : Place
  /-- Where the descriptors 0, 1 and 2 lead. -/
  input : Option Descriptor
  output : Option Descriptor
  errors : Option Descriptor

namespace Call

/-- Writes to the output. -/
def say (c : Call) (m : Machine) (bytes : Bytes) : Machine := m.write c.output bytes

/-- Writes a complaint, introduced by the title, to the errors. -/
def complain (c : Call) (m : Machine) (text : Bytes) : Machine :=
  m.write c.errors (c.title ++ ascii ": " ++ text ++ [newline])

/-- Complains of the arguments and tells where more is said about them. -/
def complainOfUse (c : Call) (m : Machine) (text : Bytes) : Machine :=
  (c.complain m text).write c.errors
    (ascii "Try '" ++ c.name ++ ascii " --help' for more information." ++ [newline])

/-- Complains of a file. -/
def complainOf (c : Call) (m : Machine) (file : Bytes) (e : Errno) : Machine :=
  c.complain m (file ++ ascii ": " ++ ascii e.text)

/-- Complains that something could not be done to a file. -/
def complainThat (c : Call) (m : Machine) (what : String) (file : Bytes) (e : Errno) : Machine :=
  c.complain m (ascii what ++ ascii " '" ++ file ++ ascii "': " ++ ascii e.text)

end Call

/-! ### Arguments -/

/-- Whether an argument is an option with this letter. -/
def hasLetter (letter : Char) (argument : Bytes) : Bool :=
  match argument with
  | 45 :: rest => rest.contains (byte letter)
  | _ => false

/-- Arguments that are options. -/
def isOption (argument : Bytes) : Bool :=
  match argument with
  | 45 :: _ :: _ => true
  | _ => false

/-- The options at the head of the arguments, and the operands. -/
def splitOptions : List Bytes → List Bytes × List Bytes
  | [] => ([], [])
  | a :: rest =>
    if a = ascii "--" then ([], rest)
    else if isOption a then
      let (options, operands) := splitOptions rest
      (a :: options, operands)
    else ([], a :: rest)

/-- Whether any option has this letter. -/
def hasOption (letter : Char) (options : List Bytes) : Bool := options.any (hasLetter letter)

/-- Options taken apart: letters that stand alone, letters with a value, and the operands. -/
structure Options where
  letters : Bytes
  values : List (UInt8 × Bytes)
  operands : List Bytes
  deriving Repr

namespace Options

/-- The options with a letter more. -/
def withLetter (o : Options) (letter : UInt8) : Options := { o with letters := letter :: o.letters }

/-- Adds the letters of one argument. The last of them may need a value, which is given back if it
is not in the argument. -/
def addLetters (valued : String) : Bytes → Options → Options × Option UInt8
  | [], o => (o, none)
  | letter :: rest, o =>
    if (ascii valued).contains letter then
      if rest = [] then (o, some letter)
      else ({ o with values := o.values ++ [(letter, rest)] }, none)
    else addLetters valued rest (o.withLetter letter)

/-- Takes arguments apart, of which the letters in `valued` need values. Options may stand between
operands. -/
def ofArguments (valued : String) : List Bytes → Options
  | [] => ⟨[], [], []⟩
  | a :: rest =>
    if a = ascii "--" then ⟨[], [], rest⟩
    else if isOption a then
      match addLetters valued a.tail ⟨[], [], []⟩, rest with
      | (o, some letter), value :: rest =>
        let more := ofArguments valued rest
        ⟨o.letters ++ more.letters, (letter, value) :: more.values, more.operands⟩
      | (o, _), rest =>
        let more := ofArguments valued rest
        ⟨o.letters ++ more.letters, o.values ++ more.values, more.operands⟩
    else
      let more := ofArguments valued rest
      { more with operands := a :: more.operands }

/-- Whether a letter is among the options. -/
def has (o : Options) (letter : Char) : Bool := o.letters.contains (byte letter)

/-- The value of a letter. -/
def value? (o : Options) (letter : Char) : Option Bytes := o.values.lookup (byte letter)

/-- All values of a letter. -/
def valuesOf (o : Options) (letter : Char) : List Bytes :=
  o.values.filterMap fun (l, v) => if l = byte letter then some v else none

end Options

/-! ### Contents -/

/-- The lines of some bytes without their ends. -/
def linesOf (bs : Bytes) : List Bytes :=
  match (Text.splitAll newline bs).reverse with
  | [] :: rest => rest.reverse
  | parts => parts.reverse

/-- Lines put together. -/
def ofLines (lines : List Bytes) : Bytes := lines.flatMap (· ++ [newline])

/-- Lines put together, of which the last is not ended if `isEnded` is false. -/
def ofLinesUnless (isEnded : Bool) (lines : List Bytes) : Bytes :=
  if isEnded then ofLines lines else [newline].intercalate lines

/-- Whether the last line of some bytes is ended. -/
def endsLine (bs : Bytes) : Bool := bs = [] || bs.getLast? = some newline

/-- The content of each operand, or of the input if there is none, with complaints of those that
cannot be read. -/
def readOperandsWith (c : Call) (complaint : Machine → Bytes → Errno → Machine) (m : Machine)
    (operands : List Bytes) : Machine × List (Bytes × Bytes) × Bool :=
  let operands := if operands = [] then [ascii "-"] else operands
  operands.foldl (fun (m, contents, isFine) file =>
    if file = ascii "-" then
      let (m, content) := m.readAll c.input
      (m, contents ++ [(file, content)], isFine)
    else
      match m.openFile c.cwd ⟨file⟩ with
      | (m, .ok content) => (m, contents ++ [(file, content)], isFine)
      | (m, .error e) => (complaint m file e, contents, false)) (m, [], true)

/-- The content of each operand, or of the input if there is none. -/
def readOperands (c : Call) (m : Machine) (operands : List Bytes) :
    Machine × List (Bytes × Bytes) × Bool :=
  readOperandsWith c c.complainOf m operands

/-- The status for success or failure. -/
def statusOf (isFine : Bool) : Nat := if isFine then 0 else 1

end Script

end LintBridge
