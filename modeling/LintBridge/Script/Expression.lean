import LintBridge.Script.Reader

/-!
# Regular expressions

The regular expressions by which lines are chosen and changed. They are written in two styles: in
the basic one, the marks for groups, bars and counts stand after a backslash; in the extended one
they stand for themselves. A match is the longest of those that begin leftmost.

## Main definitions

* `Script.Expression` — an expression.
* `Script.Expression.read` — the expression that some bytes denote.
* `Script.Expression.trails` — the ways in which it matches.
* `Script.Expression.find?` — its first match in a line.
-/

namespace LintBridge

namespace Script

/-- What one byte of a line can be. -/
inductive ByteSet where
  | one (b : UInt8)
  | any
  | among (isNegated : Bool) (ranges : List (UInt8 × UInt8))
  /-- A byte of the set, or the other case of one. -/
  | folded (s : ByteSet)
  deriving Repr

/-- An expression. -/
inductive Expression where
  | nothing
  | one (s : ByteSet)
  /-- The start of the line. -/
  | start
  /-- The end of the line. -/
  | finish
  /-- The edge of a word. -/
  | wordEdge
  /-- A part that is remembered under a number. -/
  | group (index : Nat) (body : Expression)
  /-- The text of a group once more. -/
  | again (index : Nat)
  | sequence (first second : Expression)
  | either (first second : Expression)
  | repeated (least : Nat) (most : Option Nat) (body : Expression)
  deriving Repr

/-- How far a match has come. -/
structure Trail where
  /-- The byte before what is left. -/
  before : Option UInt8
  /-- How many bytes of the line are passed. -/
  passed : Nat
  /-- What is left of the line. -/
  rest : Bytes
  /-- What the groups have matched. -/
  groups : List (Nat × Bytes)
  deriving Repr

namespace ByteSet

/-- An ASCII letter in the other case. -/
def otherCase (b : UInt8) : UInt8 :=
  if 65 ≤ b ∧ b ≤ 90 then b + 32 else if 97 ≤ b ∧ b ≤ 122 then b - 32 else b

/-- Whether a byte is in a set. -/
def contains : ByteSet → UInt8 → Bool
  | .one a, b => a = b
  | .any, _ => true
  | .among isNegated ranges, b => (ranges.any fun (low, high) => low ≤ b && b ≤ high) != isNegated
  | .folded s, b => s.contains b || s.contains (otherCase b)

/-- The bytes of words. -/
def wordRanges : List (UInt8 × UInt8) := [(48, 57), (65, 90), (95, 95), (97, 122)]

/-- Blanks. -/
def blankRanges : List (UInt8 × UInt8) := [(9, 13), (32, 32)]

/-- The classes of bytes by name. -/
def classes : List (String × List (UInt8 × UInt8)) :=
  [("alpha", [(65, 90), (97, 122)]), ("digit", [(48, 57)]), ("upper", [(65, 90)]),
    ("lower", [(97, 122)]), ("alnum", [(48, 57), (65, 90), (97, 122)]), ("space", blankRanges),
    ("blank", [(9, 9), (32, 32)]), ("punct", [(33, 47), (58, 64), (91, 96), (123, 126)]),
    ("print", [(32, 126)]), ("graph", [(33, 126)]), ("cntrl", [(0, 31), (127, 127)]),
    ("xdigit", [(48, 57), (65, 70), (97, 102)])]

/-- The class at the head of a list in brackets, which is written `[:name:]`. -/
def readClass? (bs : Bytes) : Option (List (UInt8 × UInt8) × Bytes) :=
  classes.findSome? fun (name, ranges) =>
    let written := ascii ("[:" ++ name ++ ":]")
    if written.isPrefixOf bs then some (ranges, bs.drop written.length) else none

/-- The ranges of a list in brackets, and what follows the closing one. -/
def readRanges? (isFirst : Bool) :
    (fuel : Nat) → Bytes → Option (List (UInt8 × UInt8) × Bytes)
  | 0, _ => none
  | fuel + 1, bs =>
    let more (ranges : List (UInt8 × UInt8)) (rest : Bytes) :=
      (readRanges? false fuel rest).map fun (others, rest) => (ranges ++ others, rest)
    match readClass? bs with
    | some (ranges, rest) => more ranges rest
    | none =>
      match bs with
      | [] => none
      | 93 :: rest => if isFirst then more [(93, 93)] rest else some ([], rest)
      | a :: 45 :: b :: rest =>
        if b = 93 then more [(a, a)] (45 :: b :: rest) else more [(a, b)] rest
      | a :: rest => more [(a, a)] rest

/-- The list after an opening bracket, and what follows it. -/
def readAmong? (bs : Bytes) : Option (ByteSet × Bytes) :=
  let (isNegated, bs) := match bs with
    | 94 :: rest => (true, rest)
    | _ => (false, bs)
  (readRanges? true (bs.length + 1) bs).map fun (ranges, rest) => (.among isNegated ranges, rest)

end ByteSet

namespace Expression

/-! ### Reading -/

/-- What stands between the parts of an expression. -/
inductive Token where
  | enter
  | leave
  | bar
  /-- A count of the part before it. -/
  | count (least : Nat) (most : Option Nat)
  | item (e : Expression)
  deriving Repr

/-- The count in braces, up to the closing mark. -/
def readCount? (closing bs : Bytes) : Option (Token × Bytes) :=
  let least := digitsNumber (bs.takeWhile isDigitByte)
  let rest := bs.dropWhile isDigitByte
  let (most, rest) : Option Nat × Bytes := match rest with
    | 44 :: rest =>
      let ds := rest.takeWhile isDigitByte
      (if ds = [] then none else some (digitsNumber ds), rest.dropWhile isDigitByte)
    | _ => (some least, rest)
  if closing.isPrefixOf rest then some (.count least most, rest.drop closing.length) else none

/-- What the marks for groups, bars and counts mean. -/
def mark? (isExtended : Bool) (b : UInt8) (rest : Bytes) : Option (Token × Bytes) :=
  let closing := if isExtended then ascii "\x7d" else ascii "\\\x7d"
  if b = byte '(' then some (.enter, rest)
  else if b = byte ')' then some (.leave, rest)
  else if b = byte '|' then some (.bar, rest)
  else if b = byte '+' then some (.count 1 none, rest)
  else if b = byte '?' then some (.count 0 (some 1), rest)
  else if b = byte '\x7b' then readCount? closing rest
  else none

/-- What a letter or a digit after a backslash means. -/
def escape (b : UInt8) : Expression :=
  if 49 ≤ b ∧ b ≤ 57 then .again (b.toNat - 48)
  else if b = byte 'w' then .one (.among false ByteSet.wordRanges)
  else if b = byte 'W' then .one (.among true ByteSet.wordRanges)
  else if b = byte 's' then .one (.among false ByteSet.blankRanges)
  else if b = byte 'S' then .one (.among true ByteSet.blankRanges)
  else if b = byte 'b' ∨ b = byte '<' ∨ b = byte '>' then .wordEdge
  else if b = byte 'n' then .one (.one newline)
  else if b = byte 't' then .one (.one 9)
  else .one (.one b)

/-- Whether a part may begin here: at the head of an expression, a group or a branch. -/
def beginsPart (last : Option Token) : Bool :=
  match last with
  | none | some .enter | some .bar => true
  | _ => false

/-- Whether a part ends before this text. -/
def endsPart (isExtended : Bool) (bs : Bytes) : Bool :=
  bs = [] || (if isExtended then bs.head? = some (byte ')') || bs.head? = some (byte '|')
    else (ascii "\\)").isPrefixOf bs || (ascii "\\|").isPrefixOf bs)

/-- The tokens of an expression. -/
def tokens (isExtended : Bool) : (fuel : Nat) → (last : Option Token) → Bytes → List Token
  | 0, _, _ => []
  | _ + 1, _, [] => []
  | fuel + 1, last, b :: bs =>
    let (token, rest) : Token × Bytes :=
      if b = backslash then
        match bs with
        | [] => (.item (.one (.one b)), [])
        | c :: rest =>
          if isExtended then (.item (escape c), rest)
          else (mark? false c rest).getD (.item (escape c), rest)
      else if b = byte '.' then (.item (.one .any), bs)
      else if b = byte '[' then
        match ByteSet.readAmong? bs with
        | some (s, rest) => (.item (.one s), rest)
        | none => (.item (.one (.one b)), bs)
      else if b = byte '^' ∧ (isExtended ∨ beginsPart last) then (.item .start, bs)
      else if b = byte '$' ∧ (isExtended ∨ endsPart isExtended bs) then (.item .finish, bs)
      else if b = byte '*' ∧ !beginsPart last then (.count 0 none, bs)
      else if isExtended then (mark? true b bs).getD (.item (.one (.one b)), bs)
      else (.item (.one (.one b)), bs)
    token :: tokens isExtended fuel (some token) rest

/-- The counts at the head of some tokens, applied to a part. -/
def withCounts (e : Expression) : List Token → Expression × List Token
  | .count least most :: rest => withCounts (.repeated least most e) rest
  | rest => (e, rest)

mutual

/-- Branches between bars, the number of groups so far, and what is left. -/
def readEither : (fuel : Nat) → (groups : Nat) → List Token → Expression × Nat × List Token
  | 0, groups, ts => (.nothing, groups, ts)
  | fuel + 1, groups, ts =>
    let (first, groups, rest) := readSequence fuel groups ts
    match rest with
    | .bar :: rest =>
      let (second, groups, rest) := readEither fuel groups rest
      (.either first second, groups, rest)
    | rest => (first, groups, rest)

/-- Parts that follow each other. -/
def readSequence : (fuel : Nat) → (groups : Nat) → List Token → Expression × Nat × List Token
  | 0, groups, ts => (.nothing, groups, ts)
  | fuel + 1, groups, ts =>
    match ts with
    | .item e :: rest =>
      let (e, rest) := withCounts e rest
      let (more, groups, rest) := readSequence fuel groups rest
      (.sequence e more, groups, rest)
    | .enter :: rest =>
      let index := groups + 1
      let (body, groups, rest) := readEither fuel index rest
      let (e, rest) := withCounts (.group index body) rest.tail
      let (more, groups, rest) := readSequence fuel groups rest
      (.sequence e more, groups, rest)
    | .count _ _ :: rest => readSequence fuel groups rest
    | rest => (.nothing, groups, rest)

end

/-- The same expression for both cases of letters. -/
def foldCase : Expression → Expression
  | .one s => .one (.folded s)
  | .group index body => .group index (foldCase body)
  | .sequence first second => .sequence (foldCase first) (foldCase second)
  | .either first second => .either (foldCase first) (foldCase second)
  | .repeated least most body => .repeated least most (foldCase body)
  | e => e

/-- The expression that some bytes denote. -/
def read (isExtended : Bool) (bs : Bytes) : Expression :=
  let ts := tokens isExtended (bs.length + 1) none bs
  (readEither (2 * ts.length + 2) 0 ts).1

/-- The expression for some bytes that stand for themselves. -/
def literal (bs : Bytes) : Expression := bs.foldr (fun b e => .sequence (.one (.one b)) e) .nothing

/-! ### Matching -/

/-- The trails without those that end where an earlier one ends. -/
def distinct (ts : List Trail) : List Trail :=
  (ts.foldl (fun kept t => if kept.any (·.passed = t.passed) then kept else t :: kept) []).reverse

/-- The trail after some bytes. -/
def advance (t : Trail) (count : Nat) : Trail :=
  let taken := t.rest.take count
  ⟨if taken = [] then t.before else taken.getLast?, t.passed + taken.length, t.rest.drop count,
    t.groups⟩

/-- The trails after `count` and more rounds of a step, those with most rounds first. The trails
that are `known` have had enough rounds. -/
def rounds (step : Trail → List Trail) (least : Nat) (most : Option Nat) :
    (fuel : Nat) → (count : Nat) → (known current : List Trail) → List Trail
  | 0, _, known, _ => known
  | fuel + 1, count, known, current =>
    let fresh := if count < least then current
      else current.filter fun t => !known.any (·.passed = t.passed)
    let known := if count < least then known else fresh.reverse ++ known
    if fresh = [] ∨ most = some count then known
    else rounds step least most fuel (count + 1) known (distinct (fresh.flatMap step))

/-- The ways in which an expression matches from where a trail has come, the preferred one first. No
two of them end at the same byte. -/
def trails : Expression → Trail → List Trail
  | .nothing, t => [t]
  | .one s, t =>
    match t.rest with
    | b :: _ => if s.contains b then [advance t 1] else []
    | [] => []
  | .start, t => if t.passed = 0 then [t] else []
  | .finish, t => if t.rest = [] then [t] else []
  | .wordEdge, t =>
    let isWord (b : Option UInt8) : Bool := b.any (ByteSet.among false ByteSet.wordRanges).contains
    if isWord t.before = isWord t.rest.head? then [] else [t]
  | .group index body, t =>
    (trails body t).map fun u =>
      { u with groups := (index, t.rest.take (u.passed - t.passed)) :: u.groups }
  | .again index, t =>
    let text := (t.groups.lookup index).getD []
    if text.isPrefixOf t.rest then [advance t text.length] else []
  | .sequence first second, t => distinct ((trails first t).flatMap (trails second))
  | .either first second, t => distinct (trails first t ++ trails second t)
  | .repeated least most body, t =>
    rounds (trails body) least most (t.rest.length + least + 2) 0 [] [t]

/-- A match in a line. -/
structure Match where
  /-- How many bytes stand before it. -/
  start : Nat
  text : Bytes
  groups : List (Nat × Bytes)
  deriving Repr

/-- The longest match that begins here. -/
def matchAt? (e : Expression) (before : Option UInt8) (start : Nat) (rest : Bytes) : Option Match :=
  let longest (best : Option Trail) (t : Trail) : Option Trail :=
    match best with
    | none => some t
    | some b => if b.passed < t.passed then some t else some b
  ((trails e ⟨before, start, rest, []⟩).foldl longest none).map fun t =>
    ⟨start, rest.take (t.passed - start), t.groups⟩

/-- The first match that begins at or after a byte of a line. -/
def findFrom? (e : Expression) (before : Option UInt8) (start : Nat) : Bytes → Option Match
  | [] => matchAt? e before start []
  | b :: rest =>
    match matchAt? e before start (b :: rest) with
    | some found => some found
    | none => findFrom? e (some b) (start + 1) rest

/-- The first match in a line. -/
def find? (e : Expression) (line : Bytes) : Option Match := findFrom? e none 0 line

/-- Whether an expression matches a part of a line. -/
def occursIn (e : Expression) (line : Bytes) : Bool := (find? e line).isSome

/-- The matches in a line from left to right, none within another. After an empty one, the next
begins one byte later; right after another match there is no empty one. -/
def matchesFrom (e : Expression) :
    (fuel : Nat) → (before : Option UInt8) → (passed : Nat) → (canBeEmpty : Bool) → Bytes →
      List Match
  | 0, _, _, _, _ => []
  | fuel + 1, before, passed, canBeEmpty, rest =>
    match findFrom? e before passed rest with
    | none => []
    | some found =>
      let skipped := rest.drop (found.start - passed)
      if found.text = [] then
        let more := match skipped with
          | [] => []
          | b :: after => matchesFrom e fuel (some b) (found.start + 1) true after
        if found.start = passed ∧ !canBeEmpty then more else found :: more
      else
        found :: matchesFrom e fuel found.text.getLast? (found.start + found.text.length) false
          (skipped.drop found.text.length)

/-- The matches in a line from left to right. -/
def findAll (e : Expression) (line : Bytes) : List Match :=
  matchesFrom e (line.length + 2) none 0 true line

end Expression

end Script

end LintBridge
