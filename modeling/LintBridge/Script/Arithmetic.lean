import LintBridge.Script.Reader

/-!
# Arithmetic in scripts

Numbers of 64 bits with the operators of scripts. An expression is read into a term first; its value
is taken afterwards, so that an operand that is not needed changes nothing. A variable that is
missing or empty counts as zero.

## Main definitions

* `Script.Arithmetic.Term` — an expression.
* `Script.Arithmetic.read` — the term that some bytes denote.
* `Script.Arithmetic.Term.value` — the value of a term, with the variables that it changes.
* `Script.Arithmetic.wholeNumber?` — the number that some bytes denote.
-/

namespace LintBridge

namespace Script

namespace Arithmetic

/-- Operators of two operands that are always both needed. -/
inductive Operator where
  | bitOr | bitXor | bitAnd | equal | unequal | atMost | atLeast | below | above
  | shiftLeft | shiftRight | plus | minus | times | quotient | remainder
  deriving DecidableEq, Repr

/-- Operators of one operand. -/
inductive SignOperator where
  | negative
  | positive
  | logicalNot
  | bitNot
  deriving DecidableEq, Repr

/-- An expression. -/
inductive Term where
  | number (n : Int64)
  /-- The value of a variable. -/
  | named (name : Bytes)
  /-- The value that a variable is given, after an operator on its old value if there is one. -/
  | assigned (name : Bytes) (operator : Option Operator) (value : Term)
  | signed (operator : SignOperator) (operand : Term)
  | joined (operator : Operator) (left right : Term)
  /-- One if both operands are true. -/
  | both (left right : Term)
  /-- One if an operand is true. -/
  | either (left right : Term)
  | choice (condition whenTrue whenFalse : Term)
  deriving DecidableEq, Repr

/-- Why an expression has no value. -/
inductive Fault where
  | noOperand
  | noEnd
  | noParenthesis
  | noColon
  | divisionByZero
  /-- The value of a variable is no number. -/
  | notNumber (value : Bytes)
  deriving DecidableEq, Repr

namespace Fault

/-- What is in the way of the value of an expression. -/
def message (expression : Bytes) : Fault → Bytes
  | .notNumber value => ascii "Illegal number: " ++ value
  | fault =>
    let reason := match fault with
      | .noOperand => "expecting primary"
      | .noEnd => "expecting EOF"
      | .noParenthesis => "expecting ')'"
      | .noColon => "expecting ':'"
      | _ => "division by zero"
    ascii "arithmetic expression: " ++ ascii reason ++ ascii ": \"" ++ expression ++ ascii "\""

end Fault

/-! ### Numbers -/

/-- The text without blanks and line ends at its head. -/
def skip (bs : Bytes) : Bytes := bs.dropWhile fun b => isBlankByte b || b = newline

/-- The value of a digit, up to base 16. -/
def digit? (b : UInt8) : Option Nat :=
  if 48 ≤ b ∧ b ≤ 57 then some (b.toNat - 48)
  else if 97 ≤ b ∧ b ≤ 102 then some (b.toNat - 87)
  else if 65 ≤ b ∧ b ≤ 70 then some (b.toNat - 55)
  else none

/-- Whether a byte is a digit of a base. -/
def isDigitOf (base : Nat) (b : UInt8) : Bool := (digit? b).any (· < base)

/-- The number that some digits of a base denote. -/
def numberOf (base : Nat) (ds : Bytes) : Nat := ds.foldl (fun n d => n * base + (digit? d).getD 0) 0

/-- The largest number. -/
def largest : Int := Int64.maxValue.toInt

/-- A number as 64 bits; one that is too large becomes the largest. -/
def clamp (n : Int) : Int64 := Int64.ofInt (max (-largest - 1) (min largest n))

/-- The number at the head of a text that begins with a digit: base 16 after `0x`, base 8 after a
zero, else base 10. -/
def readNumber (bs : Bytes) : Nat × Bytes :=
  match bs with
  | 48 :: x :: d :: rest =>
    if (x = byte 'x' ∨ x = byte 'X') ∧ isDigitOf 16 d then
      (numberOf 16 ((d :: rest).takeWhile (isDigitOf 16)), (d :: rest).dropWhile (isDigitOf 16))
    else
      (numberOf 8 (bs.takeWhile (isDigitOf 8)), bs.dropWhile (isDigitOf 8))
  | 48 :: _ => (numberOf 8 (bs.takeWhile (isDigitOf 8)), bs.dropWhile (isDigitOf 8))
  | _ => (numberOf 10 (bs.takeWhile (isDigitOf 10)), bs.dropWhile (isDigitOf 10))

/-- A number with blanks around it and perhaps a sign, read by a rule for its digits. -/
def signedNumber? (digits? : Bytes → Option Nat) (bs : Bytes) : Option Int :=
  let isSpace (b : UInt8) : Bool := isBlankByte b || (10 ≤ b && b ≤ 13)
  let bs := ((bs.dropWhile isSpace).reverse.dropWhile isSpace).reverse
  match bs with
  | 45 :: rest => (digits? rest).map fun n => -(n : Int)
  | 43 :: rest => (digits? rest).map fun n => (n : Int)
  | _ => (digits? bs).map fun n => (n : Int)

/-- The whole number that some bytes denote in base 10, blanks around it left out. -/
def wholeNumber? (bs : Bytes) : Option Int :=
  signedNumber? (fun ds => if ds ≠ [] ∧ ds.all isDigitByte then some (digitsNumber ds) else none) bs

/-- The value of a variable as a number. -/
def valueOf (bytes : Bytes) : Except Fault Int64 :=
  if skip bytes = [] then .ok 0
  else
    let digits? (ds : Bytes) : Option Nat :=
      if ds.head?.any isDigitByte then
        match readNumber ds with
        | (n, []) => some n
        | _ => none
      else none
    match signedNumber? digits? bytes with
    | some n => .ok (clamp n)
    | none => .error (.notNumber bytes)

/-! ### Reading -/

/-- How operands are joined. -/
inductive Joint where
  | always (operator : Operator)
  | both
  | either
  deriving DecidableEq, Repr

/-- The operators with their marks and how tightly they bind. Longer marks come first. -/
def joints : List (String × Nat × Joint) :=
  [("||", 1, .either), ("&&", 2, .both), ("==", 6, .always .equal), ("!=", 6, .always .unequal),
    ("<<", 8, .always .shiftLeft), (">>", 8, .always .shiftRight), ("<=", 7, .always .atMost),
    (">=", 7, .always .atLeast), ("|", 3, .always .bitOr), ("^", 4, .always .bitXor),
    ("&", 5, .always .bitAnd), ("<", 7, .always .below), (">", 7, .always .above),
    ("+", 9, .always .plus), ("-", 9, .always .minus), ("*", 10, .always .times),
    ("/", 10, .always .quotient), ("%", 10, .always .remainder)]

/-- The marks by which variables are given values. -/
def assignments : List (String × Option Operator) :=
  [("=", none), ("*=", some .times), ("/=", some .quotient), ("%=", some .remainder),
    ("+=", some .plus), ("-=", some .minus), ("<<=", some .shiftLeft), (">>=", some .shiftRight),
    ("&=", some .bitAnd), ("^=", some .bitXor), ("|=", some .bitOr)]

/-- The mark at the head of a text by which a variable is given a value. -/
def readAssignment? (bs : Bytes) : Option (Option Operator × Bytes) :=
  if (ascii "==").isPrefixOf bs then none
  else
    (assignments.find? fun (mark, _) => (ascii mark).isPrefixOf bs).map fun (mark, operator) =>
      (operator, bs.drop mark.length)

/-- The operator at the head of a text. One that gives a variable a value is none of these. -/
def readJoint? (bs : Bytes) : Option (Nat × Joint × Bytes) :=
  match joints.find? fun (mark, _) => (ascii mark).isPrefixOf bs with
  | some (mark, level, joint) =>
    if (readAssignment? bs).isSome then none else some (level, joint, bs.drop mark.length)
  | none => none

/-- Two terms joined. -/
def Joint.join : Joint → Term → Term → Term
  | .always operator, a, b => .joined operator a b
  | .both, a, b => .both a b
  | .either, a, b => .either a b

/-- What an operator of one operand makes of a byte. -/
def signOperator? (b : UInt8) : Option SignOperator :=
  [(byte '-', SignOperator.negative), (byte '+', .positive), (byte '!', .logicalNot),
    (byte '~', .bitNot)].lookup b

mutual

/-- An expression: an assignment, a choice, or operands joined by operators. -/
def readTerm : (fuel : Nat) → Bytes → Except Fault (Term × Bytes)
  | 0, _ => .error .noOperand
  | fuel + 1, bs =>
    let bs := skip bs
    let name := if bs.head?.any isNameStart then bs.takeWhile isNameByte else []
    let assignment? := if name = [] then none else readAssignment? (skip (bs.drop name.length))
    match assignment? with
    | some (operator, rest) =>
      (readTerm fuel rest).map fun (value, rest) => (.assigned name operator value, rest)
    | none =>
      match readJoined fuel 0 bs with
      | .error e => .error e
      | .ok (condition, rest) =>
        match skip rest with
        | 63 :: rest =>
          match readTerm fuel rest with
          | .error e => .error e
          | .ok (yes, rest) =>
            match skip rest with
            | 58 :: rest =>
              (readTerm fuel rest).map fun (no, rest) => (.choice condition yes no, rest)
            | _ => .error .noColon
        | rest => .ok (condition, rest)

/-- An operand. -/
def readOperand : (fuel : Nat) → Bytes → Except Fault (Term × Bytes)
  | 0, _ => .error .noOperand
  | fuel + 1, bs =>
    match skip bs with
    | [] => .error .noOperand
    | b :: rest =>
      match signOperator? b with
      | some operator =>
        (readOperand fuel rest).map fun (operand, rest) => (.signed operator operand, rest)
      | none =>
        if b = byte '(' then
          match readTerm fuel rest with
          | .error e => .error e
          | .ok (inner, rest) =>
            match skip rest with
            | 41 :: rest => .ok (inner, rest)
            | _ => .error .noParenthesis
        else if isDigitByte b then
          let (n, rest) := readNumber (b :: rest)
          .ok (.number (clamp n), rest)
        else if isNameStart b then
          .ok (.named ((b :: rest).takeWhile isNameByte), (b :: rest).dropWhile isNameByte)
        else .error .noOperand

/-- Operands joined by operators that bind more tightly than `level`. -/
def readJoined : (fuel : Nat) → (level : Nat) → Bytes → Except Fault (Term × Bytes)
  | 0, _, _ => .error .noOperand
  | fuel + 1, level, bs =>
    match readOperand fuel bs with
    | .ok (first, rest) => readMore fuel level first rest
    | .error e => .error e

/-- What follows the first operand. -/
def readMore : (fuel : Nat) → (level : Nat) → Term → Bytes → Except Fault (Term × Bytes)
  | 0, _, _, _ => .error .noOperand
  | fuel + 1, level, first, bs =>
    match readJoint? (skip bs) with
    | some (l, joint, rest) =>
      if l ≤ level then .ok (first, bs)
      else
        match readJoined fuel l rest with
        | .ok (second, rest) => readMore fuel level (joint.join first second) rest
        | .error e => .error e
    | none => .ok (first, bs)

end

/-- The term that some bytes denote. -/
def read (bs : Bytes) : Except Fault Term :=
  match readTerm (4 * bs.length + 8) bs with
  | .ok (t, rest) => if skip rest = [] then .ok t else .error .noEnd
  | .error e => .error e

/-! ### Values -/

/-- One for what is true, zero for what is false. -/
def truth (b : Bool) : Int64 := if b then 1 else 0

/-- What an operator makes of two values. -/
def Operator.apply (a b : Int64) : Operator → Except Fault Int64
  | .bitOr => .ok (a ||| b)
  | .bitXor => .ok (a ^^^ b)
  | .bitAnd => .ok (a &&& b)
  | .equal => .ok (truth (a = b))
  | .unequal => .ok (truth (a ≠ b))
  | .atMost => .ok (truth (a ≤ b))
  | .atLeast => .ok (truth (b ≤ a))
  | .below => .ok (truth (a < b))
  | .above => .ok (truth (b < a))
  | .shiftLeft => .ok (a <<< b)
  | .shiftRight => .ok (a >>> b)
  | .plus => .ok (a + b)
  | .minus => .ok (a - b)
  | .times => .ok (a * b)
  | .quotient => if b = 0 then .error .divisionByZero else .ok (a / b)
  | .remainder => if b = 0 then .error .divisionByZero else .ok (a % b)

/-- What an operator makes of a value. -/
def SignOperator.apply (a : Int64) : SignOperator → Int64
  | .negative => -a
  | .positive => a
  | .logicalNot => truth (a = 0)
  | .bitNot => ~~~a

/-- The value of a term, with the variables that were given values, the last one first. -/
def Term.value (given : Bytes → Option Bytes) :
    Term → List (Bytes × Int64) → Except Fault (Int64 × List (Bytes × Int64))
  | .number n, changed => .ok (n, changed)
  | .named name, changed =>
    match changed.lookup name with
    | some n => .ok (n, changed)
    | none => (valueOf ((given name).getD [])).map fun n => (n, changed)
  | .assigned name operator term, changed => do
    let (n, changed) ← term.value given changed
    match operator with
    | none => .ok (n, (name, n) :: changed)
    | some operator =>
      let old ← match changed.lookup name with
        | some old => .ok old
        | none => valueOf ((given name).getD [])
      let n ← operator.apply old n
      .ok (n, (name, n) :: changed)
  | .signed operator operand, changed =>
    (operand.value given changed).map fun (n, changed) => (operator.apply n, changed)
  | .joined operator left right, changed => do
    let (a, changed) ← left.value given changed
    let (b, changed) ← right.value given changed
    .ok (← operator.apply a b, changed)
  | .both left right, changed => do
    let (a, changed) ← left.value given changed
    if a = 0 then .ok (0, changed)
    else (right.value given changed).map fun (b, changed) => (truth (b ≠ 0), changed)
  | .either left right, changed => do
    let (a, changed) ← left.value given changed
    if a ≠ 0 then .ok (1, changed)
    else (right.value given changed).map fun (b, changed) => (truth (b ≠ 0), changed)
  | .choice condition yes no, changed => do
    let (c, changed) ← condition.value given changed
    if c ≠ 0 then yes.value given changed else no.value given changed

end Arithmetic

end Script

end LintBridge
