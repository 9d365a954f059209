import LintBridge.Script.Call
import LintBridge.Script.Expression

/-!
# Programs on contents

The programs that read files or their input line by line and write some of it, or something about
it.

## Main definitions

* `Script.runContentTool?` — runs a program, if it is one of these.
-/

namespace LintBridge

namespace Script

/-- A number as text, filled up with blanks from the left. -/
def padded (width n : Nat) : Bytes :=
  let digits := ascii (toString n)
  List.replicate (width - digits.length) 32 ++ digits

/-! ### Whole contents -/

/-- Writes the contents of files, with numbers or marks for the ends of lines if asked to. -/
def runCat (c : Call) (m : Machine) : Machine × Nat :=
  let o := Options.ofArguments "" c.arguments
  let (m, contents, isFine) := readOperands c m o.operands
  let content := contents.flatMap Prod.snd
  let showsEnds := o.has 'E' || o.has 'e' || o.has 'A'
  let showsTabs := o.has 'T' || o.has 't' || o.has 'A'
  let line (number : Nat) (text : Bytes) : Bytes :=
    (if o.has 'n' then padded 6 number ++ [9] else []) ++
      if showsTabs then text.flatMap fun b => if b = 9 then ascii "^I" else [b] else text
  if o.letters = [] then (c.say m content, statusOf isFine)
  else
    let lines := (linesOf content).zipIdx 1
    let text := (lines.map fun (text, number) => line number text)
    let mark := if showsEnds then [byte '$'] else []
    let text := if endsLine content then text.flatMap fun l => l ++ mark ++ [newline]
      else (mark ++ [newline]).intercalate text
    (c.say m text, statusOf isFine)

/-- A count for the head or the tail of contents. -/
structure Count where
  isBytes : Bool
  /-- The sign before the count. -/
  sign : Option UInt8
  number : Nat

/-- The count that options give, and the other options. -/
def takeCount (arguments : List Bytes) : Count × Options :=
  let arguments := match arguments with
    | a :: rest =>
      if isOption a ∧ a.tail.all isDigitByte then ascii "-n" :: a.tail :: rest else a :: rest
    | [] => []
  let o := Options.ofArguments "nc" arguments
  let count (isBytes : Bool) (text : Bytes) : Count :=
    match text with
    | 43 :: ds => ⟨isBytes, some 43, digitsNumber ds⟩
    | 45 :: ds => ⟨isBytes, some 45, digitsNumber ds⟩
    | ds => ⟨isBytes, none, digitsNumber ds⟩
  match o.value? 'c', o.value? 'n' with
  | some text, _ => (count true text, o)
  | none, some text => (count false text, o)
  | none, none => (⟨false, none, 10⟩, o)

/-- Complains that a file cannot be opened for reading. -/
def complainOfOpening (c : Call) (m : Machine) (file : Bytes) (e : Errno) : Machine :=
  match e with
  | .isDirectory => c.complain m (ascii "error reading '" ++ file ++ ascii "': " ++ ascii e.text)
  | e => c.complain m (ascii "cannot open '" ++ file ++ ascii "' for reading: " ++ ascii e.text)

/-- Writes a part of each content, with titles if there are several. -/
def writeParts (c : Call) (m : Machine) (o : Options) (part : Bytes → Bytes) : Machine × Nat :=
  let (m, contents, isFine) := readOperandsWith c (complainOfOpening c) m o.operands
  let isTitled := (1 < o.operands.length || o.has 'v') && !o.has 'q'
  let parts := contents.map fun (file, content) =>
    let title := if file = ascii "-" then ascii "standard input" else file
    if isTitled then ascii "==> " ++ title ++ ascii " <==\n" ++ part content else part content
  (c.say m ((if isTitled then [newline] else []).intercalate parts), statusOf isFine)

/-- Content as lines, each with its end. -/
def endedLines (content : Bytes) : List Bytes :=
  let parts := Text.splitAll newline content
  let ended := parts.dropLast.map (· ++ [newline])
  match parts.getLast? with
  | some (b :: bs) => ended ++ [b :: bs]
  | _ => ended

/-- Writes the first lines or bytes. -/
def runHead (c : Call) (m : Machine) : Machine × Nat :=
  let (count, o) := takeCount c.arguments
  let part {α : Type} (all : List α) : List α :=
    all.take (if count.sign = some 45 then all.length - count.number else count.number)
  writeParts c m o fun content =>
    if count.isBytes then part content else (part (endedLines content)).flatten

/-- Writes the last lines or bytes. -/
def runTail (c : Call) (m : Machine) : Machine × Nat :=
  let (count, o) := takeCount c.arguments
  let part {α : Type} (all : List α) : List α :=
    all.drop (if count.sign = some 43 then count.number - 1 else all.length - count.number)
  let (m, status) := writeParts c m o fun content =>
    if count.isBytes then part content else (part (endedLines content)).flatten
  if o.has 'f' then (m.getStuck, status) else (m, status)

/-- How many words there are. -/
def wordCount (bs : Bytes) : Nat :=
  let isBlank (b : UInt8) : Bool := isBlankByte b || (9 ≤ b && b ≤ 13)
  (bs.foldl (fun (n, inWord) b =>
    if isBlank b then (n, false) else (if inWord then n else n + 1, true)) (0, false)).1

/-- Counts lines, words and bytes. Counts are as wide as the size of all files needs, but wider if
anything is read that has no size. -/
def runCount (c : Call) (m : Machine) : Machine × Nat :=
  let o := Options.ofArguments "" c.arguments
  let (m, contents, isFine) := readOperands c m o.operands
  let all := o.letters = []
  let counts (content : Bytes) : List Nat :=
    (if all || o.has 'l' then [content.count newline] else [])
      ++ (if all || o.has 'w' then [wordCount content] else [])
      ++ (if o.has 'm' then [content.length] else [])
      ++ (if all || o.has 'c' then [content.length] else [])
  let rows := contents.map fun (file, content) => (file, counts content)
  let hasSizes := contents.all fun (file, _) => m.files.isFile c.cwd ⟨file⟩
  let size := (contents.map fun (_, content) => content.length).foldl (· + ·) 0
  let width := if rows.length ≤ 1 ∧ (counts []).length = 1 then 1
    else if hasSizes then (toString size).length else 7
  let zeros := (counts []).map fun _ => 0
  let sums := rows.foldl (fun sums (_, row) => List.zipWith (· + ·) sums row) zeros
  let rows := if 1 < o.operands.length then rows ++ [(ascii "total", sums)] else rows
  let text := rows.flatMap fun (file, row) =>
    [32].intercalate (row.map (padded width)) ++ (if file = ascii "-" then [] else 32 :: file)
      ++ [newline]
  (c.say m text, statusOf isFine)

/-! ### Lines that are chosen -/

/-- Whether a match is no part of a longer word. -/
def isWholeWord (line : Bytes) (found : Expression.Match) : Bool :=
  let isWord (b : Option UInt8) : Bool := b.any (ByteSet.among false ByteSet.wordRanges).contains
  let before := (line.take found.start).getLast?
  let after := (line.drop (found.start + found.text.length)).head?
  !isWord before && !isWord after

/-- The expression that some lines denote: one of them has to match. -/
def expressionOf (o : Options) (patterns : List Bytes) : Expression :=
  let read (pattern : Bytes) : Expression :=
    if o.has 'F' then .literal pattern else .read (o.has 'E') pattern
  let e := match (patterns.flatMap (Text.splitAll newline)).map read with
    | [] => .nothing
    | e :: es => es.foldl .either e
  let e := if o.has 'x' then .sequence .start (.sequence e .finish) else e
  if o.has 'i' || o.has 'y' then e.foldCase else e

/-- Writes the lines in which an expression occurs. -/
def runGrep (c : Call) (m : Machine) : Machine × Nat :=
  let o := Options.ofArguments "efmABCd" c.arguments
  let (patterns, files) := match o.valuesOf 'e', o.operands with
    | [], pattern :: files => ([pattern], files)
    | patterns, files => (patterns, files)
  if patterns = [] then
    (m.write c.errors (ascii ("Usage: grep [OPTION]... PATTERNS [FILE]...\n"
      ++ "Try 'grep --help' for more information.\n")), 2)
  else
    let e := expressionOf o patterns
    let complaint := if o.has 's' then fun m _ _ => m else c.complainOf
    let (m, contents, isFine) := readOperandsWith c complaint m files
    let isNamed := (1 < files.length || o.has 'H') && !o.has 'h'
    let found (line : Bytes) : List Expression.Match :=
      if o.has 'w' then (e.findAll line).filter (isWholeWord line)
      else if o.has 'o' then e.findAll line
      else (e.find? line).toList
    let limit (lines : List (Bytes × Nat)) : List (Bytes × Nat) := match o.value? 'm' with
      | some count => lines.take (digitsNumber count)
      | none => lines
    let hits : List (Bytes × List (Bytes × Nat)) := contents.map fun (file, content) =>
      (file, limit (((linesOf content).zipIdx 1).filter fun (line, _) =>
        !(found line).isEmpty != o.has 'v'))
    let any := hits.any fun (_, lines) => lines ≠ []
    let title (file : Bytes) : Bytes :=
      if isNamed then (if file = ascii "-" then ascii "(standard input)" else file) ++ ascii ":"
      else []
    let text := hits.flatMap fun (file, lines) =>
      if o.has 'q' then []
      else if o.has 'l' then if lines = [] then [] else file ++ [newline]
      else if o.has 'L' then if lines = [] then file ++ [newline] else []
      else if o.has 'c' then title file ++ ascii (toString lines.length) ++ [newline]
      else lines.flatMap fun (line, n) =>
        let lead := title file ++ (if o.has 'n' then ascii (toString n ++ ":") else [])
        if o.has 'o' then
          ((found line).filter (·.text ≠ [])).flatMap fun part => lead ++ part.text ++ [newline]
        else lead ++ line ++ [newline]
    (c.say m text, if o.has 'q' ∧ any then 0 else if !isFine then 2 else statusOf any)

/-! ### Lines in order -/

/-- The order of bytes. -/
def bytesLe (a b : Bytes) : Bool := !(List.lex b a)

/-- The number at the head of a line, in billionths. -/
def leadingNumber (line : Bytes) : Int :=
  let line := line.dropWhile isBlankByte
  let (isNegative, line) := match line with
    | 45 :: rest => (true, rest)
    | _ => (false, line)
  let whole := digitsNumber (line.takeWhile isDigitByte)
  let fraction := match line.dropWhile isDigitByte with
    | 46 :: rest => (rest.takeWhile isDigitByte).take 9
    | _ => []
  let n : Int := whole * 1000000000
    + digitsNumber (fraction ++ List.replicate (9 - fraction.length) 48)
  if isNegative then -n else n

/-- The lines without those that are like the one before. -/
def withoutRepeats (alike : Bytes → Bytes → Bool) : List Bytes → List Bytes
  | a :: b :: rest =>
    if alike a b then withoutRepeats alike (a :: rest) else a :: withoutRepeats alike (b :: rest)
  | lines => lines
termination_by lines => lines.length

/-- Sorts lines. -/
def runSort (c : Call) (m : Machine) : Machine × Nat :=
  let o := Options.ofArguments "ktoS" c.arguments
  let (m, contents, isFine) := readOperands c m o.operands
  let le (a b : Bytes) : Bool :=
    if o.has 'n' ∧ leadingNumber a ≠ leadingNumber b then leadingNumber a < leadingNumber b
    else if o.has 'u' ∧ o.has 'n' then true
    else bytesLe a b
  let order (a b : Bytes) : Bool := if o.has 'r' then le b a else le a b
  let sorted := (contents.flatMap fun (_, content) => linesOf content).mergeSort order
  let alike (a b : Bytes) : Bool := le a b && le b a
  let sorted := if o.has 'u' then withoutRepeats alike sorted else sorted
  (c.say m (ofLines sorted), statusOf isFine)

/-- Lines that follow each other and are alike, with how many there are. -/
def runsOf (alike : Bytes → Bytes → Bool) : List Bytes → List (Bytes × Nat)
  | [] => []
  | line :: rest =>
    match runsOf alike rest with
    | (next, n) :: more =>
      if alike line next then (line, n + 1) :: more else (line, 1) :: (next, n) :: more
    | [] => [(line, 1)]

/-- An ASCII letter as a small one. -/
def lowerByte (b : UInt8) : UInt8 := if 65 ≤ b ∧ b ≤ 90 then b + 32 else b

/-- Writes one of the lines that follow each other and are alike. -/
def runUniq (c : Call) (m : Machine) : Machine × Nat :=
  let o := Options.ofArguments "fsw" c.arguments
  let (m, contents, isFine) := readOperands c m (o.operands.take 1)
  let alike (a b : Bytes) : Bool := if o.has 'i' then a.map lowerByte = b.map lowerByte else a = b
  let runs := (runsOf alike (linesOf (contents.flatMap Prod.snd))).filter fun (_, n) =>
    (!o.has 'd' || 1 < n) && (!o.has 'u' || n = 1)
  let text := runs.flatMap fun (line, n) =>
    (if o.has 'c' then padded 7 n ++ [32] else []) ++ line ++ [newline]
  (c.say m text, statusOf isFine)

/-- Writes the lines in the opposite order. -/
def runTac (c : Call) (m : Machine) : Machine × Nat :=
  let o := Options.ofArguments "" c.arguments
  let (m, contents, isFine) := readOperandsWith c (complainOfOpening c) m o.operands
  let turned (content : Bytes) : Bytes := (endedLines content).reverse.flatten
  (c.say m (contents.flatMap fun (_, content) => turned content), statusOf isFine)

/-- Writes each line from its end to its beginning. -/
def runRev (c : Call) (m : Machine) : Machine × Nat :=
  let o := Options.ofArguments "" c.arguments
  let (m, contents, isFine) := readOperands c m o.operands
  let turned (content : Bytes) : Bytes :=
    ofLinesUnless (endsLine content) ((linesOf content).map List.reverse)
  (c.say m (contents.flatMap fun (_, content) => turned content), statusOf isFine)

/-- Writes the lines with numbers. Empty lines have none unless all are asked for. -/
def runNl (c : Call) (m : Machine) : Machine × Nat :=
  let o := Options.ofArguments "bfhilnsvw" c.arguments
  let (m, contents, isFine) := readOperands c m o.operands
  let isNumbered (line : Bytes) : Bool := line ≠ [] || o.value? 'b' = some (ascii "a")
  let step (p : Nat × Bytes) (line : Bytes) : Nat × Bytes :=
    if isNumbered line then (p.1 + 1, p.2 ++ padded 6 p.1 ++ [9] ++ line ++ [newline])
    else (p.1, p.2 ++ List.replicate 7 32 ++ [newline])
  (c.say m ((linesOf (contents.flatMap Prod.snd)).foldl step (1, [])).2, statusOf isFine)

/-! ### Parts of lines -/

/-- The ranges in a list such as `1,3-5,7-`; the end of an open range is missing. -/
def readFields (list : Bytes) : List (Nat × Option Nat) :=
  (Text.splitAll 44 list).map fun part =>
    let first := digitsNumber (part.takeWhile isDigitByte)
    match part.dropWhile isDigitByte with
    | 45 :: last => (max first 1, if last = [] then none else some (digitsNumber last))
    | _ => (first, some first)

/-- The items at the places in a list of ranges, in their own order. -/
def chosen {α : Type} (ranges : List (Nat × Option Nat)) (items : List α) : List α :=
  ((items.zipIdx 1).filter fun (_, n) =>
    ranges.any fun (first, last) => first ≤ n && last.all (n ≤ ·)).map Prod.fst

/-- Writes parts of each line. -/
def runCut (c : Call) (m : Machine) : Machine × Nat :=
  let o := Options.ofArguments "bcdf" c.arguments
  let (m, contents, isFine) := readOperands c m o.operands
  let separator := ((o.value? 'd').bind List.head?).getD 9
  let part? (line : Bytes) : Option Bytes :=
    match (o.value? 'b').or (o.value? 'c'), o.value? 'f' with
    | some list, _ => some (chosen (readFields list) line)
    | none, some list =>
      if line.contains separator then
        some ([separator].intercalate (chosen (readFields list) (Text.splitAll separator line)))
      else if o.has 's' then none
      else some line
    | none, none => none
  if o.values.all fun (l, _) => l = byte 'd' then
    (c.complainOfUse m (ascii "you must specify a list of bytes, characters, or fields"), 1)
  else
    let lines := contents.flatMap fun (_, content) => (linesOf content).filterMap part?
    (c.say m (ofLines lines), statusOf isFine)

/-! ### Bytes that are exchanged -/

/-- The byte that a letter after a backslash denotes. -/
def escaped? (b : UInt8) : Option UInt8 :=
  [(byte 'a', 7), (byte 'b', 8), (byte 'f', 12), (byte 'n', 10), (byte 'r', 13), (byte 't', 9),
    (byte 'v', 11), (backslash, backslash)].lookup b

/-- The octal digits at the head of some bytes, at most `count` of them. -/
def octal : (count : Nat) → Nat → Bytes → Nat × Bytes
  | 0, n, bs => (n, bs)
  | _ + 1, n, [] => (n, [])
  | count + 1, n, b :: bs =>
    if 48 ≤ b ∧ b ≤ 55 then octal count (n * 8 + (b.toNat - 48)) bs else (n, b :: bs)

/-- The bytes from one to another. -/
def bytesFrom (low high : UInt8) : Bytes :=
  (List.range (high.toNat + 1 - low.toNat)).map fun n => low + n.toUInt8

/-- The byte at the head of a set, an escape counted as one. -/
def readSetByte (b : UInt8) (rest : Bytes) : UInt8 × Bytes :=
  if b = backslash then
    match rest with
    | d :: more =>
      if 48 ≤ d ∧ d ≤ 55 then
        let (n, rest) := octal 3 0 rest
        (n.toUInt8, rest)
      else ((escaped? d).getD d, more)
    | [] => (b, [])
  else (b, rest)

/-- The bytes of a set: ranges, classes and escapes are replaced by what they stand for. -/
def setBytes : (fuel : Nat) → Bytes → Bytes
  | 0, _ => []
  | _ + 1, [] => []
  | fuel + 1, b :: bs =>
    match ByteSet.readClass? (b :: bs) with
    | some (ranges, rest) =>
      (ranges.flatMap fun (low, high) => bytesFrom low high) ++ setBytes fuel rest
    | none =>
      match readSetByte b bs with
      | (low, 45 :: d :: rest) =>
        let (high, rest) := readSetByte d rest
        bytesFrom low high ++ setBytes fuel rest
      | (b, rest) => b :: setBytes fuel rest

/-- Bytes without those that repeat the one before and are in a set. -/
def squeeze (set : Bytes) : (last : Option UInt8) → Bytes → Bytes
  | _, [] => []
  | last, b :: bs =>
    if last = some b ∧ set.contains b then squeeze set last bs else b :: squeeze set (some b) bs

/-- Exchanges, removes or squeezes bytes. -/
def runTr (c : Call) (m : Machine) : Machine × Nat :=
  let (options, operands) := splitOptions c.arguments
  let sets := operands.map fun s => setBytes (s.length + 1) s
  let isDeleting := hasOption 'd' options
  let isSqueezing := hasOption 's' options
  let first := sets.headD []
  let first := if hasOption 'c' options ∨ hasOption 'C' options then
      (bytesFrom 0 255).filter (!first.contains ·)
    else first
  let second := sets.tail.headD []
  if operands = [] then (c.complainOfUse m (ascii "missing operand"), 1)
  else if operands.length = 1 ∧ !isDeleting ∧ !isSqueezing then
    let m := c.complain m (ascii "missing operand after '" ++ operands.headD [] ++ ascii "'")
    (m.write c.errors (ascii ("Two strings must be given when translating.\n"
      ++ "Try 'tr --help' for more information.\n")), 1)
  else
    let (m, content) := m.readAll c.input
    let fill := second.getLast?.getD 0
    let pairs := first.zip (second ++ List.replicate (first.length - second.length) fill)
    let exchange (b : UInt8) : UInt8 := (pairs.reverse.lookup b).getD b
    let kept := if isDeleting then content.filter (!first.contains ·)
      else if second = [] then content
      else content.map exchange
    let text := if isSqueezing then squeeze (if second = [] then first else second) none kept
      else kept
    (c.say m text, 0)

/-! ### Other outputs -/

/-- Copies the input to the output and to files. -/
def runTee (c : Call) (m : Machine) : Machine × Nat :=
  let (options, operands) := splitOptions c.arguments
  let (m, content) := m.readAll c.input
  let m := c.say m content
  operands.foldl (fun (m, status) file =>
    match m.files.findForWriting c.cwd ⟨file⟩ with
    | .ok place =>
      let f (old : Bytes) : Bytes := if hasOption 'a' options then old ++ content else content
      ({ m with files := m.files.change place f }, status)
    | .error e => (c.complainOf m file e, 1)) (m, 0)

/-- Whether an argument is a whole number, perhaps with a sign. -/
def isWhole (a : Bytes) : Bool :=
  let digits := if a.head? = some (byte '-') then a.tail else a
  digits ≠ [] && digits.all isDigitByte

/-- The whole number that an argument denotes. -/
def wholeOf (a : Bytes) : Int :=
  if a.head? = some (byte '-') then -(digitsNumber a.tail : Int) else digitsNumber a

/-- Writes a row of numbers. -/
def runSeq (c : Call) (m : Machine) : Machine × Nat :=
  let (separator, arguments) := match c.arguments with
    | (45 :: 115 :: s) :: rest => if s = [] then (rest.headD [], rest.tail) else (s, rest)
    | arguments => ([newline], arguments)
  match arguments.find? (!isWhole ·) with
  | some a => (c.complainOfUse m (ascii "invalid floating point argument: '" ++ a ++ ascii "'"), 1)
  | none =>
    let row (first step last : Int) : List Int :=
      let count := if step = 0 then 0 else ((last - first).tdiv step + 1).toNat
      let isEmpty := if 0 < step then last < first else first < last
      if isEmpty then [] else (List.range count).map fun (i : Nat) => first + (i : Int) * step
    let numbers := match arguments.map wholeOf with
      | [last] => row 1 1 last
      | [first, last] => row first 1 last
      | [first, step, last] => row first step last
      | _ => []
    let text := separator.intercalate (numbers.map fun n => ascii (toString n))
    (c.say m (if numbers = [] then [] else text ++ [newline]), 0)

/-- Compares two files. -/
def runCmp (c : Call) (m : Machine) : Machine × Nat :=
  let o := Options.ofArguments "" c.arguments
  match readOperands c m o.operands with
  | (m, [(a, first), (b, second)], _) =>
    if first = second then (m, 0)
    else if o.has 's' then (m, 1)
    else
      let same := ((first.zip second).takeWhile fun (x, y) => x = y).map Prod.fst
      if same.length = first.length ∨ same.length = second.length then
        let short := if first.length < second.length then a else b
        (c.complain m (ascii "EOF on " ++ short ++ ascii " after byte " ++
          ascii (toString same.length) ++ ascii ", line " ++
          ascii (toString (same.count newline + (if endsLine same then 0 else 1)))), 1)
      else
        (c.say m (a ++ [32] ++ b ++ ascii " differ: char " ++ ascii (toString (same.length + 1))
          ++ ascii ", line " ++ ascii (toString (same.count newline + 1)) ++ [newline]), 1)
  | (m, _, _) => (m, 2)

/-- Runs a program on contents, if it is one of these. -/
def runContentTool? (name : String) (c : Call) (m : Machine) : Option (Machine × Nat) :=
  match name with
  | "cat" => some (runCat c m)
  | "head" => some (runHead c m)
  | "tail" => some (runTail c m)
  | "wc" => some (runCount c m)
  | "grep" => some (runGrep c m)
  | "sort" => some (runSort c m)
  | "uniq" => some (runUniq c m)
  | "tac" => some (runTac c m)
  | "rev" => some (runRev c m)
  | "nl" => some (runNl c m)
  | "cut" => some (runCut c m)
  | "tr" => some (runTr c m)
  | "tee" => some (runTee c m)
  | "seq" => some (runSeq c m)
  | "cmp" => some (runCmp c m)
  | "yes" => some (m.getStuck, 0)
  | _ => none

end Script

end LintBridge
