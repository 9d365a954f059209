import LintBridge.Script.Arithmetic
import LintBridge.Script.Contents

/-!
# Writing by a format

The programs that write their arguments: one as they are, one by a format with directives.

## Main definitions

* `Script.unescape` — text with its escapes replaced.
* `Script.runEcho` — writes the arguments.
* `Script.runPrintf` — writes the arguments by a format.
-/

namespace LintBridge

namespace Script

/-- The byte that an escape denotes, and what follows it. -/
def readEscape? (bs : Bytes) : Option (UInt8 × Bytes) :=
  match bs with
  | [] => none
  | c :: rest =>
    if 48 ≤ c ∧ c ≤ 55 then
      let (n, rest) := octal 3 0 bs
      some (n.toUInt8, rest)
    else if c = byte 'e' then some (27, rest)
    else (escaped? c).map fun d => (d, rest)

/-- Text with its escapes replaced, and whether one of them ends all output. Three octal digits may
follow a zero. -/
def unescape : (fuel : Nat) → Bytes → Bytes × Bool
  | 0, bs => (bs, false)
  | _ + 1, [] => ([], false)
  | fuel + 1, b :: bs =>
    let push (b : UInt8) (rest : Bytes) : Bytes × Bool :=
      let (more, isEnded) := unescape fuel rest
      (b :: more, isEnded)
    if b ≠ backslash then push b bs
    else if bs.head? = some (byte 'c') then ([], true)
    else
      match readEscape? (if bs.head? = some (byte '0') then bs.tail else bs) with
      | some (d, rest) =>
        if bs.head? = some (byte '0') ∧ ¬ bs.tail.head?.any (fun d => 48 ≤ d && d ≤ 55) then
          push 0 bs.tail
        else push d rest
      | none => if bs.head? = some (byte '0') then push 0 bs.tail else push b bs

/-- Writes the arguments. -/
def runEcho (c : Call) (m : Machine) : Machine × Nat :=
  let (withEnd, arguments) := match c.arguments with
    | a :: rest => if a = ascii "-n" then (false, rest) else (true, a :: rest)
    | [] => (true, [])
  let text := [32].intercalate arguments
  let (text, isEnded) := unescape (text.length + 1) text
  (c.say m (text ++ if withEnd && !isEnded then [newline] else []), 0)

/-! ### Directives -/

/-- How a directive shapes its text. -/
structure Shape where
  flags : Bytes
  width : Nat
  precision : Option Nat

/-- Text filled up to the width of a shape with blanks. -/
def Shape.fill (s : Shape) (bs : Bytes) : Bytes :=
  let blanks := List.replicate (s.width - bs.length) 32
  if s.flags.contains (byte '-') then bs ++ blanks else blanks ++ bs

/-- The digits of a number filled up with zeros, after its sign. -/
def Shape.fillNumber (s : Shape) (sign digits : Bytes) : Bytes :=
  let hasZeros := s.flags.contains (byte '0') && !s.flags.contains (byte '-') && s.precision.isNone
  let least := if hasZeros then s.width - sign.length else s.precision.getD 1
  s.fill (sign ++ List.replicate (least - digits.length) 48 ++ digits)

/-- The number that an argument denotes, with a complaint unless all of it does. -/
def argumentNumber (argument : Bytes) : Int64 × Option Bytes :=
  match argument with
  | 39 :: b :: _ => (b.toUInt64.toInt64, none)
  | 34 :: b :: _ => (b.toUInt64.toInt64, none)
  | _ =>
    let isSpace (b : UInt8) : Bool := isBlankByte b || (10 ≤ b && b ≤ 13)
    let bare := argument.dropWhile isSpace
    let (isNegative, digits) : Bool × Bytes := match bare with
      | 45 :: rest => (true, rest)
      | 43 :: rest => (false, rest)
      | _ => (false, bare)
    if argument = [] then (0, none)
    else if !digits.head?.any isDigitByte then
      (0, some (argument ++ ascii ": expected numeric value"))
    else
      let (n, rest) := Arithmetic.readNumber digits
      (Arithmetic.clamp (if isNegative then -(n : Int) else n),
        if rest = [] then none else some (argument ++ ascii ": not completely converted"))

/-- The digits of a number in a base. -/
def digitsIn (base n : Nat) : Bytes := (Nat.toDigits base n).map byte

/-- What passes through a format have made so far. -/
structure Formatted where
  text : Bytes
  /-- The arguments that are left. -/
  arguments : List Bytes
  /-- Whether an argument was asked for. -/
  hasAsked : Bool
  complaints : List Bytes
  /-- Whether nothing more is written. -/
  isEnded : Bool

namespace Formatted

/-- More text. -/
def push (f : Formatted) (bytes : Bytes) : Formatted := { f with text := f.text ++ bytes }

/-- The next argument. -/
def next (f : Formatted) : Bytes × Formatted :=
  (f.arguments.headD [], { f with arguments := f.arguments.tail, hasAsked := true })

/-- The next argument as a number. -/
def nextNumber (f : Formatted) : Int64 × Formatted :=
  let (argument, f) := f.next
  let (n, complaint) := argumentNumber argument
  (n, { f with complaints := f.complaints ++ complaint.toList })

/-- Ends all output with a complaint. -/
def refuse (f : Formatted) (complaint : Bytes) : Formatted :=
  { f with complaints := f.complaints ++ [complaint], isEnded := true }

/-- The next argument as the letter of a directive says; none if there is no such letter. -/
def direct? (f : Formatted) (s : Shape) (letter : UInt8) : Option Formatted :=
  let short (bs : Bytes) : Bytes := match s.precision with
    | some p => bs.take p
    | none => bs
  let unsigned (digits : Nat → Bytes) : Formatted :=
    let (n, f) := f.nextNumber
    f.push (s.fillNumber [] (digits n.toUInt64.toNat))
  if letter = byte 's' then
    let (argument, f) := f.next
    some (f.push (s.fill (short argument)))
  else if letter = byte 'b' then
    let (argument, f) := f.next
    let (text, isEnded) := unescape (argument.length + 1) argument
    some { f.push (s.fill (short text)) with isEnded := isEnded }
  else if letter = byte 'c' then
    let (argument, f) := f.next
    some (f.push (s.fill (argument.take 1)))
  else if letter = byte 'd' ∨ letter = byte 'i' then
    let (n, f) := f.nextNumber
    let n := n.toInt
    let sign := if n < 0 then ascii "-"
      else if s.flags.contains (byte '+') then ascii "+"
      else if s.flags.contains 32 then ascii " " else []
    some (f.push (s.fillNumber sign (digitsIn 10 n.natAbs)))
  else if letter = byte 'u' then some (unsigned (digitsIn 10))
  else if letter = byte 'o' then some (unsigned (digitsIn 8))
  else if letter = byte 'x' then some (unsigned (digitsIn 16))
  else if letter = byte 'X' then
    some (unsigned fun n => (Nat.toDigits 16 n).map fun d => byte d.toUpper)
  else none

end Formatted

/-- A number in a directive: digits, or a star for the next argument. -/
def readMeasure (f : Formatted) (bs : Bytes) : Nat × Formatted × Bytes :=
  match bs with
  | 42 :: rest =>
    let (n, f) := f.nextNumber
    (n.toInt.toNat, f, rest)
  | _ => (digitsNumber (bs.takeWhile isDigitByte), f, bs.dropWhile isDigitByte)

/-- One pass through a format. -/
def formatOnce : (fuel : Nat) → Bytes → Formatted → Formatted
  | 0, _, f => f
  | _ + 1, [], f => f
  | fuel + 1, b :: bs, f =>
    if b = byte '%' then
      if bs.head? = some (byte '%') then formatOnce fuel bs.tail (f.push [b])
      else
        let flags := bs.takeWhile (ascii "-0+ #").contains
        let (width, f, rest) := readMeasure f (bs.drop flags.length)
        let (precision, f, rest) : Option Nat × Formatted × Bytes := match rest with
          | 46 :: rest =>
            let (n, f, rest) := readMeasure f rest
            (some n, f, rest)
          | rest => (none, f, rest)
        match rest with
        | [] => f.refuse (ascii "missing format character")
        | letter :: rest =>
          match f.direct? ⟨flags, width, precision⟩ letter with
          | some f => if f.isEnded then f else formatOnce fuel rest f
          | none => f.refuse (byte '%' :: letter :: ascii ": invalid directive")
    else if b = backslash then
      match readEscape? bs with
      | some (d, rest) => formatOnce fuel rest (f.push [d])
      | none => formatOnce fuel bs (f.push [b])
    else formatOnce fuel bs (f.push [b])

/-- Passes through a format until all arguments are used. -/
def formatAll : (fuel : Nat) → Bytes → Formatted → Formatted
  | 0, _, f => f
  | fuel + 1, format, f =>
    let f := formatOnce (format.length + 1) format { f with hasAsked := false }
    if f.arguments ≠ [] ∧ f.hasAsked ∧ !f.isEnded then formatAll fuel format f else f

/-- Writes the arguments by a format. -/
def runPrintf (c : Call) (m : Machine) : Machine × Nat :=
  let arguments := if c.arguments.head? = some (ascii "--") then c.arguments.tail else c.arguments
  match arguments with
  | format :: rest =>
    let f := formatAll (rest.length + 1) format ⟨[], rest, false, [], false⟩
    let m := c.say m f.text
    (f.complaints.foldl c.complain m,
      if f.complaints = [] then 0 else if f.isEnded then 2 else 1)
  | [] => (c.complain m (ascii "usage: printf format [arg ...]"), 2)

end Script

end LintBridge
