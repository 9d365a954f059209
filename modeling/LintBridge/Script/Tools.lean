import LintBridge.Script.Editor
import LintBridge.Script.Format
import LintBridge.Script.Places
import LintBridge.Script.Test

/-!
# The programs of the system

The programs that scripts use most. Each takes its arguments and its descriptors and leaves the
machine changed, with a status.

## Main definitions

* `Script.runTool?` — runs a program, if it is one of these.
-/

namespace LintBridge

namespace Script

/-- The time that an argument denotes, in microseconds. -/
def duration? (argument : Bytes) : Option Nat :=
  let whole := argument.takeWhile isDigitByte
  let (fraction, unit) := match argument.dropWhile isDigitByte with
    | 46 :: rest => (rest.takeWhile isDigitByte, rest.dropWhile isDigitByte)
    | rest => ([], rest)
  let factor? := match unit with
    | [] => some 1
    | [115] => some 1
    | [109] => some 60
    | [104] => some 3600
    | [100] => some 86400
    | _ => none
  if whole = [] ∧ fraction = [] then none
  else
    factor?.map fun factor =>
      factor * (digitsNumber whole * 1000000
        + digitsNumber (fraction.take 6) * Nat.pow 10 (6 - min 6 fraction.length))

/-- Lets time pass. -/
def runSleep (c : Call) (m : Machine) : Machine × Nat :=
  if c.arguments = [] then complainOfOperands c m [] "operand"
  else
    match c.arguments.find? fun a => a ≠ ascii "infinity" && (duration? a).isNone with
    | some a => (c.complainOfUse m (ascii "invalid time interval '" ++ a ++ ascii "'"), 1)
    | none =>
      if c.arguments.contains (ascii "infinity") then (m.getStuck, 0)
      else (m.advance ((c.arguments.filterMap duration?).foldl (· + ·) 0), 0)

/-! ### Expressions of words -/

/-- What an operator makes of two words; the complaint if it cannot. -/
def joinWords (operator a b : Bytes) : Except Bytes Bytes :=
  let truth (holds : Bool) : Bytes := if holds then ascii "1" else ascii "0"
  let isNull (w : Bytes) : Bool := w = [] || w = ascii "0"
  let compared (f : Ordering → Bool) : Except Bytes Bytes :=
    if isWhole a && isWhole b then .ok (truth (f (compare (wholeOf a) (wholeOf b))))
    else .ok (truth (f (if a = b then .eq else if bytesLe a b then .lt else .gt)))
  let numbers (f : Int → Int → Int) : Except Bytes Bytes :=
    if isWhole a && isWhole b then .ok (ascii (toString (f (wholeOf a) (wholeOf b))))
    else .error (ascii "non-integer argument")
  match Utf8.lossy operator with
  | "|" => .ok (if !isNull a then a else if isNull b then ascii "0" else b)
  | "&" => .ok (if isNull a || isNull b then ascii "0" else a)
  | "=" => compared (· == .eq)
  | "==" => compared (· == .eq)
  | "!=" => compared (· != .eq)
  | "<" => compared (· == .lt)
  | "<=" => compared (· != .gt)
  | ">" => compared (· == .gt)
  | ">=" => compared (· != .lt)
  | "+" => numbers (· + ·)
  | "-" => numbers (· - ·)
  | "*" => numbers (· * ·)
  | "/" => if isWhole b ∧ wholeOf b = 0 then .error (ascii "division by zero") else numbers Int.tdiv
  | "%" => if isWhole b ∧ wholeOf b = 0 then .error (ascii "division by zero") else numbers Int.tmod
  | _ =>
    let e := Expression.sequence .start (.read false b)
    let hasGroup := (Text.cutFirst (ascii "\\(") b).isSome
    match e.find? a with
    | some found =>
      .ok (if hasGroup then (found.groups.lookup 1).getD [] else ascii (toString found.text.length))
    | none => .ok (if hasGroup then [] else ascii "0")

/-- How tightly the operators of words bind. -/
def wordLevel? (operator : Bytes) : Option Nat :=
  match Utf8.lossy operator with
  | "|" => some 1
  | "&" => some 2
  | "=" | "==" | "!=" | "<" | "<=" | ">" | ">=" => some 3
  | "+" | "-" => some 4
  | "*" | "/" | "%" => some 5
  | ":" => some 6
  | _ => none

mutual

/-- Words joined by operators that bind more tightly than `level`. -/
def readWordSum : (fuel : Nat) → (level : Nat) → List Bytes → Except Bytes (Bytes × List Bytes)
  | 0, _, _ => .error (ascii "syntax error")
  | fuel + 1, level, ws =>
    match ws with
    | [] => .error (ascii "syntax error: missing argument")
    | w :: rest =>
      if w = ascii "(" then do
        let (value, rest) ← readWordSum fuel 0 rest
        if rest.head? = some (ascii ")") then readWordMore fuel level value rest.tail
        else .error (ascii "syntax error: expecting ')'")
      else if w = ascii "length" ∧ rest ≠ [] then
        readWordMore fuel level (ascii (toString (rest.headD []).length)) rest.tail
      else readWordMore fuel level w rest

/-- What follows the first word. -/
def readWordMore :
    (fuel : Nat) → (level : Nat) → Bytes → List Bytes → Except Bytes (Bytes × List Bytes)
  | 0, _, _, _ => .error (ascii "syntax error")
  | fuel + 1, level, first, ws =>
    match ws with
    | [] => .ok (first, [])
    | operator :: rest =>
      match wordLevel? operator with
      | some l =>
        if l ≤ level then .ok (first, ws)
        else do
          let (second, rest) ← readWordSum fuel l rest
          let value ← joinWords operator first second
          readWordMore fuel level value rest
      | none => .ok (first, ws)

end

/-- Writes the value of an expression of words. -/
def runExpr (c : Call) (m : Machine) : Machine × Nat :=
  if c.arguments = [] then (c.complainOfUse m (ascii "missing operand"), 2)
  else
    match readWordSum (4 * c.arguments.length + 8) 0 c.arguments with
    | .ok (value, []) =>
      (c.say m (value ++ [newline]), if value = [] ∨ value = ascii "0" then 1 else 0)
    | .ok (_, w :: _) =>
      (c.complain m (ascii "syntax error: unexpected argument '" ++ w ++ ascii "'"), 2)
    | .error complaint => (c.complain m complaint, 2)

/-- Runs a program, if it is one of these. -/
def runTool? (name : String) (c : Call) (m : Machine) : Option (Machine × Nat) :=
  match name with
  | "sleep" => some (runSleep c m)
  | "sed" => some (runSed c m)
  | "expr" => some (runExpr c m)
  | "echo" => some (runEcho c m)
  | "printf" => some (runPrintf c m)
  | "test" => some (runTest c m)
  | "[" => some (runTest c m)
  | "true" => some (m, 0)
  | "false" => some (m, 1)
  | "kill" => some (m, 1)
  | "id" => some (c.say m (ascii "0\n"), 0)
  | "whoami" => some (c.say m (ascii "root\n"), 0)
  | "uname" => some (c.say m (ascii "Linux\n"), 0)
  | name => (runContentTool? name c m).or (runFileTool? name c m)

end Script

end LintBridge
