import LintBridge.Script.Arithmetic
import LintBridge.Script.Call

/-!
# Tests of files, texts and numbers

A test is a list of words: operators of one operand for files and texts, operators of two operands
for texts and numbers, and negations, conjunctions and disjunctions of these.

## Main definitions

* `Script.runTest` — tests files, texts and numbers.
-/

namespace LintBridge

namespace Script

/-- What is true of a file or a text, by the operator. -/
def unaryTest? (c : Call) (m : Machine) (operator operand : Bytes) : Option Bool :=
  let t := m.files
  let p : Path := ⟨operand⟩
  let node? := (t.stat c.cwd p).toOption
  let isLink := match t.find c.cwd p false with
    | .ok place => (match t.node? place with
      | some (.link _) => true
      | _ => false)
    | .error _ => false
  match Utf8.lossy operator with
  | "-n" => some (operand ≠ [])
  | "-z" => some (operand = [])
  | "-e" | "-r" | "-w" | "-O" | "-G" => some node?.isSome
  | "-f" => some (t.isFile c.cwd p)
  | "-d" => some (t.isDirectory c.cwd p)
  | "-x" => some (t.isExecutable c.cwd p || t.isDirectory c.cwd p)
  | "-p" => some (node? = some .pipe)
  | "-c" => some (node? = some .sink)
  | "-s" => some (match node? with
    | some (.file content _) => content ≠ []
    | some .directory => true
    | some (.program _) => true
    | _ => false)
  | "-L" | "-h" => some isLink
  | "-t" | "-S" | "-b" | "-u" | "-g" | "-k" => some false
  | _ => none

/-- The operators of two operands. -/
def binaryOperators : List Bytes :=
  ["=", "==", "!=", "<", ">", "-eq", "-ne", "-lt", "-le", "-gt", "-ge", "-nt", "-ot", "-ef"].map
    ascii

/-- What is true of two texts, two numbers or two files. -/
def binaryTest (c : Call) (m : Machine) (a operator b : Bytes) : Except Bytes Bool :=
  let numbers (f : Int → Int → Bool) : Except Bytes Bool :=
    match Arithmetic.wholeNumber? a, Arithmetic.wholeNumber? b with
    | some x, some y => .ok (f x y)
    | some _, none => .error (ascii "Illegal number: " ++ b)
    | none, _ => .error (ascii "Illegal number: " ++ a)
  if operator = ascii "=" ∨ operator = ascii "==" then .ok (a = b)
  else if operator = ascii "!=" then .ok (a ≠ b)
  else if operator = ascii "<" then .ok (List.lex a b)
  else if operator = ascii ">" then .ok (List.lex b a)
  else if operator = ascii "-eq" then numbers (· == ·)
  else if operator = ascii "-ne" then numbers (· != ·)
  else if operator = ascii "-lt" then numbers fun x y => x < y
  else if operator = ascii "-le" then numbers fun x y => x ≤ y
  else if operator = ascii "-gt" then numbers fun x y => y < x
  else if operator = ascii "-ge" then numbers fun x y => y ≤ x
  else if operator = ascii "-ef" then
    .ok (match m.files.find c.cwd ⟨a⟩ true, m.files.find c.cwd ⟨b⟩ true with
      | .ok p, .ok q => p = q && (m.files.node? p).isSome
      | _, _ => false)
  else .ok false

/-- Whether a word before these others is an operand even if it looks like an operator. -/
def isOperand : List Bytes → Bool
  | [] => true
  | [_] => false
  | o :: _ :: _ => binaryOperators.contains o

/-- Complains of a word. -/
def misplaced (word : Bytes) (text : String) : Bytes := word ++ ascii (": " ++ text)

mutual

/-- Tests joined by `-o`. The words that are given back begin with the last one that was used. -/
def testAny (c : Call) (m : Machine) : (fuel : Nat) → List Bytes → Except Bytes (Bool × List Bytes)
  | 0, ws => .ok (false, ws)
  | fuel + 1, ws => do
    let (a, used) ← testAll c m fuel ws
    match used with
    | _ :: o :: rest =>
      if o = ascii "-o" then
        let (b, used) ← testAny c m fuel rest
        .ok (a || b, used)
      else .ok (a, used)
    | used => .ok (a, used)

/-- Tests joined by `-a`. -/
def testAll (c : Call) (m : Machine) : (fuel : Nat) → List Bytes → Except Bytes (Bool × List Bytes)
  | 0, ws => .ok (false, ws)
  | fuel + 1, ws => do
    let (a, used) ← testNegated c m fuel ws
    match used with
    | _ :: o :: rest =>
      if o = ascii "-a" then
        let (b, used) ← testAll c m fuel rest
        .ok (a && b, used)
      else .ok (a, used)
    | used => .ok (a, used)

/-- A test, perhaps negated. -/
def testNegated (c : Call) (m : Machine) :
    (fuel : Nat) → List Bytes → Except Bytes (Bool × List Bytes)
  | 0, ws => .ok (false, ws)
  | fuel + 1, ws =>
    match ws with
    | [] => .ok (false, [])
    | w :: rest =>
      if w ≠ ascii "!" then testOne c m fuel w rest
      else if rest = [] then .ok (true, [w])
      else (testNegated c m fuel rest).map fun (b, used) => (!b, used)

/-- A single test. -/
def testOne (c : Call) (m : Machine) :
    (fuel : Nat) → Bytes → List Bytes → Except Bytes (Bool × List Bytes)
  | 0, w, rest => .ok (false, w :: rest)
  | fuel + 1, w, rest =>
    if w = ascii "(" ∧ rest ≠ [] then
      if rest.head? = some (ascii ")") then .ok (false, rest)
      else do
        let (b, used) ← testAny c m fuel rest
        if used.tail.head? = some (ascii ")") then .ok (b, used.tail)
        else .error (ascii "closing paren expected")
    else
      match unaryTest? c m w (rest.headD []), isOperand rest, rest with
      | some result, false, rest => .ok (result, rest)
      | _, _, o :: more =>
        if binaryOperators.contains o then
          match more with
          | [] => .error (misplaced o "argument expected")
          | b :: _ => (binaryTest c m w o b).map fun result => (result, more)
        else .ok (w ≠ [], w :: rest)
      | _, _, [] => .ok (w ≠ [], [w])

end

/-- The value of a test. -/
def testValue (c : Call) (m : Machine) (ws : List Bytes) : Except Bytes Bool :=
  let whole : Except Bytes Bool := do
    let (result, used) ← testAny c m (8 * ws.length + 8) ws
    match used with
    | last :: _ :: _ => .error (misplaced last "unexpected operator")
    | _ => .ok result
  match ws with
  | [a, o, b] => if binaryOperators.contains o then binaryTest c m a o b else whole
  | _ => whole

/-- Tests files, texts and numbers. -/
def runTest (c : Call) (m : Machine) : Machine × Nat :=
  let isBracket := c.name = ascii "["
  let ws := if isBracket then c.arguments.dropLast else c.arguments
  if isBracket ∧ c.arguments.getLast? ≠ some (ascii "]") then (c.complain m (ascii "missing ]"), 2)
  else
    match testValue c m ws with
    | .ok result => (m, statusOf result)
    | .error complaint => (c.complain m complaint, 2)

end Script

end LintBridge
