import LintBridge.Script.Contents

/-!
# Editing a stream of lines

An editing script is a list of instructions that are applied to each line of an input in turn. Each
has conditions on the line: its number, whether it is the last one, or whether an expression
matches.

## Main definitions

* `Script.Editing.Instruction` — an instruction.
* `Script.Editing.read` — the instructions that some bytes denote.
* `Script.Editing.edit` — what they make of some content.
* `Script.runSed` — edits files or the input.
-/

namespace LintBridge

namespace Script

namespace Editing

/-- Where a line stands. -/
inductive Address where
  | line (number : Nat)
  | last
  | matching (e : Expression)
  /-- So many lines after the first one. -/
  | after (count : Nat)
  deriving Repr

/-- Which lines an instruction is for. -/
structure Condition where
  /-- Tells conditions apart. -/
  index : Nat
  first : Option Address
  second : Option Address
  isNegated : Bool
  deriving Repr

/-- A part of what takes the place of a match. -/
inductive Part where
  | text (bytes : Bytes)
  /-- A group of the match; the group zero is the whole. -/
  | group (index : Nat)
  deriving Repr

/-- What an instruction does to the line. -/
inductive Action where
  | substitute (e : Expression) (parts : List Part) (isGlobal : Bool) (occurrence : Nat)
      (prints : Bool)
  | exchange (pairs : List (UInt8 × UInt8))
  | write
  | writeNumber
  /-- Drops the line and goes on with the next. -/
  | drop
  | quit (isQuiet : Bool) (status : Nat)
  | textAfter (bytes : Bytes)
  | textBefore (bytes : Bytes)
  | textInstead (bytes : Bytes)
  | nextLine
  | joinNext
  | keep (isAdded : Bool)
  | recall (isAdded : Bool)
  | swap
  /-- Goes on with the next line. -/
  | finish
  /-- The condition is one for so many instructions after this one. -/
  | group (count : Nat)
  deriving Repr

/-- An instruction. -/
structure Instruction where
  condition : Option Condition
  action : Action
  deriving Repr

/-- What is wrong with a script, and how much of it is left after that. -/
structure Fault where
  text : String
  left : Nat
  deriving Repr

/-! ### Reading -/

/-- The text up to a delimiter that is not escaped. A delimiter that is escaped loses its backslash.
-/
def upTo? (delimiter : UInt8) : Bytes → Option (Bytes × Bytes)
  | [] => none
  | [b] => if b = delimiter then some ([], []) else none
  | b :: c :: rest =>
    if b = delimiter then some ([], c :: rest)
    else if b = backslash then
      (upTo? delimiter rest).map fun (text, rest) =>
        (if c = delimiter then c :: text else b :: c :: text, rest)
    else (upTo? delimiter (c :: rest)).map fun (text, rest) => (b :: text, rest)

/-- The parts of a replacement. -/
def readParts : Bytes → List Part
  | [] => []
  | 38 :: rest => .group 0 :: readParts rest
  | 92 :: c :: rest =>
    (if 48 ≤ c ∧ c ≤ 57 then .group (c.toNat - 48)
      else if c = byte 'n' then .text [newline]
      else if c = byte 't' then .text [9]
      else .text [c]) :: readParts rest
  | b :: rest => .text [b] :: readParts rest

/-- The address at the head of a text, if there is one. -/
def readAddress (isExtended : Bool) (bs : Bytes) : Except Fault (Option Address × Bytes) :=
  match bs with
  | 36 :: rest => .ok (some .last, rest)
  | 43 :: rest =>
    .ok (some (.after (digitsNumber (rest.takeWhile isDigitByte))), rest.dropWhile isDigitByte)
  | 47 :: rest =>
    match upTo? 47 rest with
    | none => .error ⟨"unterminated address regex", 0⟩
    | some (pattern, rest) =>
      let e := Expression.read isExtended pattern
      match rest with
      | 73 :: rest => .ok (some (.matching e.foldCase), rest)
      | rest => .ok (some (.matching e), rest)
  | _ =>
    if bs.head?.any isDigitByte then
      .ok (some (.line (digitsNumber (bs.takeWhile isDigitByte))), bs.dropWhile isDigitByte)
    else .ok (none, bs)

/-- The condition at the head of a text, if there is one. -/
def readCondition (isExtended : Bool) (bs : Bytes) : Except Fault (Option Condition × Bytes) := do
  let (first, rest) ← readAddress isExtended bs
  let (second, rest) ← (match first, rest.dropWhile isBlankByte with
    | some _, 44 :: rest => do
      let (second, rest) ← readAddress isExtended (rest.dropWhile isBlankByte)
      if second.isNone then .error ⟨"unexpected `,'", rest.tail.length⟩
      else .ok (second, rest)
    | _, _ => .ok (none, rest) : Except Fault (Option Address × Bytes))
  match rest.dropWhile isBlankByte with
  | 33 :: rest => .ok (some ⟨bs.length, first, second, true⟩, rest.dropWhile isBlankByte)
  | rest => .ok (if first.isSome then some ⟨bs.length, first, second, false⟩ else none, rest)

/-- The text of an instruction that adds lines, up to the end of the line. -/
def readAdded (bs : Bytes) : Bytes × Bytes :=
  let bs := bs.dropWhile isBlankByte
  let bs := if (ascii "\\\n").isPrefixOf bs then bs.drop 2
    else if bs.head? = some backslash then bs.tail else bs
  (bs.takeWhile (· ≠ newline) ++ [newline], bs.dropWhile (· ≠ newline))

/-- The two texts between three delimiters after the letter of an instruction. -/
def readPair (letter : Char) (bs : Bytes) : Except Fault (Bytes × Bytes × Bytes) :=
  let both := do
    let delimiter ← bs.head?
    let (first, rest) ← upTo? delimiter bs.tail
    let (second, rest) ← upTo? delimiter rest
    some (first, second, rest)
  match both with
  | some parts => .ok parts
  | none => .error ⟨"unterminated `" ++ letter.toString ++ "' command", 0⟩

/-- The substitution after its letter. -/
def readSubstitution (isExtended : Bool) (bs : Bytes) : Except Fault (Action × Bytes) := do
  let (pattern, replacement, rest) ← readPair 's' bs
  let isFlag (b : UInt8) : Bool := isDigitByte b || (ascii "gpiIm").contains b
  let flags := rest.takeWhile isFlag
  let rest := rest.drop flags.length
  let e := Expression.read isExtended pattern
  let e := if flags.contains (byte 'i') || flags.contains (byte 'I') then e.foldCase else e
  if rest.head?.any fun b => isNameByte b then .error ⟨"unknown option to `s'", rest.tail.length⟩
  else
    .ok (.substitute e (readParts replacement) (flags.contains (byte 'g'))
      (max 1 (digitsNumber (flags.filter isDigitByte))) (flags.contains (byte 'p')), rest)

/-- The pairs of an exchange after its letter. -/
def readExchange (bs : Bytes) : Except Fault (Action × Bytes) := do
  let (old, new, rest) ← readPair 'y' bs
  let plain (bs : Bytes) : Bytes := setBytes (bs.length + 1) (bs.flatMap fun b =>
    if b = byte '-' ∨ b = byte '[' then [backslash, b] else [b])
  if (plain old).length ≠ (plain new).length then
    .error ⟨"strings for `y' command are different lengths", rest.length⟩
  else .ok (.exchange ((plain old).zip (plain new)), rest)

/-- The action at the head of a text. -/
def readAction (isExtended : Bool) (bs : Bytes) : Except Fault (Action × Bytes) :=
  match bs with
  | [] => .error ⟨"missing command", 0⟩
  | b :: rest =>
    let status := (rest.dropWhile isBlankByte).takeWhile isDigitByte
    let quit (isQuiet : Bool) : Action × Bytes :=
      (.quit isQuiet (digitsNumber status), (rest.dropWhile isBlankByte).drop status.length)
    let added (f : Bytes → Action) : Action × Bytes :=
      let (text, rest) := readAdded rest
      (f text, rest)
    let plain : List (Char × Action) := [('p', .write), ('=', .writeNumber), ('d', .drop),
      ('n', .nextLine), ('N', .joinNext), ('h', .keep false), ('H', .keep true),
      ('g', .recall false), ('G', .recall true), ('x', .swap), ('b', .finish)]
    if b = byte 's' then readSubstitution isExtended rest
    else if b = byte 'y' then readExchange rest
    else if b = byte 'q' then .ok (quit false)
    else if b = byte 'Q' then .ok (quit true)
    else if b = byte 'a' then .ok (added .textAfter)
    else if b = byte 'i' then .ok (added .textBefore)
    else if b = byte 'c' then .ok (added .textInstead)
    else
      match plain.find? fun (letter, _) => byte letter = b with
      | some (_, action) => .ok (action, rest)
      | none => .error ⟨"unknown command: `" ++ (Char.ofNat b.toNat).toString ++ "'", rest.length⟩

/-- The instructions up to the end, or up to a closing brace if they are `inside` of braces. -/
def readUpTo (isExtended : Bool) :
    (fuel : Nat) → (inside : Bool) → Bytes → Except Fault (List Instruction × Bytes)
  | 0, _, _ => .error ⟨"missing command", 0⟩
  | fuel + 1, inside, bs =>
    let isSeparator (b : UInt8) : Bool := isBlankByte b || b = newline || b = byte ';'
    match bs.dropWhile isSeparator with
    | [] => if inside then .error ⟨"unmatched `\x7b'", bs.length⟩ else .ok ([], [])
    | 35 :: rest => readUpTo isExtended fuel inside (rest.dropWhile (· ≠ newline))
    | 125 :: rest => if inside then .ok ([], rest) else .error ⟨"unexpected `\x7d'", rest.length⟩
    | bs => do
      let (condition, rest) ← readCondition isExtended bs
      let (first, rest) ← (match rest.dropWhile isBlankByte with
        | 123 :: rest => do
          let (body, rest) ← readUpTo isExtended fuel true rest
          .ok (⟨condition, .group body.length⟩ :: body, rest)
        | rest => do
          let (action, rest) ← readAction isExtended rest
          .ok ([⟨condition, action⟩], rest) : Except Fault (List Instruction × Bytes))
      match rest.dropWhile isBlankByte with
      | [] =>
        let (more, rest) ← readUpTo isExtended fuel inside []
        .ok (first ++ more, rest)
      | b :: after =>
        if isSeparator b ∨ b = byte '\x7d' ∨ b = byte '#' then
          let (more, rest) ← readUpTo isExtended fuel inside rest
          .ok (first ++ more, rest)
        else .error ⟨"extra characters after command", after.length⟩

/-- The instructions that some bytes denote. -/
def read (isExtended : Bool) (bs : Bytes) : Except Fault (List Instruction) :=
  (readUpTo isExtended (bs.length + 2) false bs).map Prod.fst

/-! ### Editing -/

/-- A line, and whether a line end follows it. -/
structure Line where
  text : Bytes
  isEnded : Bool

/-- How far the work has come. -/
structure Progress where
  /-- The line in work. -/
  line : Line
  /-- What was put aside. -/
  kept : Line
  number : Nat
  rest : List Line
  /-- The ranges that have begun, with the number of the line on which they did. -/
  active : List (Nat × Nat)
  output : Bytes
  /-- Whether the last line of the output still has to be ended. -/
  isOpen : Bool
  /-- Text that follows the line. -/
  added : Bytes

namespace Progress

/-- Writes text that ends with a line end. -/
def push (p : Progress) (bytes : Bytes) : Progress :=
  if bytes = [] then p
  else
    let lead := if p.isOpen then [newline] else []
    { p with output := p.output ++ lead ++ bytes, isOpen := false }

/-- Writes the line. -/
def pushLine (p : Progress) : Progress :=
  let lead := if p.isOpen then [newline] else []
  let ending := if p.line.isEnded then [newline] else []
  { p with output := p.output ++ lead ++ p.line.text ++ ending, isOpen := !p.line.isEnded }

/-- Whether the line stands at an address. -/
def isAt (p : Progress) (start : Nat) : Address → Bool
  | .line n => p.number = n
  | .last => p.rest.isEmpty
  | .matching e => e.occursIn p.line.text
  | .after count => start + count ≤ p.number

/-- Whether a range has no line after this one. -/
def endsWithLine (p : Progress) (start : Nat) : Address → Bool
  | .line n => n ≤ p.number
  | a => p.isAt start a

/-- Whether a condition holds, and the progress after the question. -/
def meets (p : Progress) (c : Condition) : Bool × Progress :=
  let (holds, p) : Bool × Progress :=
    match c.first, c.second with
    | none, _ => (true, p)
    | some a, none => (p.isAt 0 a, p)
    | some a, some b =>
      match p.active.lookup c.index with
      | some start =>
        if p.endsWithLine start b then
          (true, { p with active := p.active.filter fun (i, _) => i ≠ c.index })
        else (true, p)
      | none =>
        if p.isAt 0 a then
          let isWhole : Bool := match b with
            | .line n => n ≤ p.number
            | .after count => count = 0
            | .last => p.rest.isEmpty
            | .matching _ => false
          (true, if isWhole then p else { p with active := (c.index, p.number) :: p.active })
        else (false, p)
  (holds != c.isNegated, p)

/-- Whether an instruction is for the line. -/
def meets? (p : Progress) (c : Option Condition) : Bool × Progress :=
  match c with
  | none => (true, p)
  | some c => p.meets c

/-- The progress with the next line. -/
def advance (p : Progress) (line : Line) (rest : List Line) : Progress :=
  { p with line := line, rest := rest, number := p.number + 1 }

end Progress

/-- What takes the place of a match. -/
def replacement (found : Expression.Match) (parts : List Part) : Bytes :=
  parts.flatMap fun
    | .text bytes => bytes
    | .group 0 => found.text
    | .group i => (found.groups.lookup i).getD []

/-- The line after a substitution; none if nothing was replaced. -/
def substituted? (e : Expression) (parts : List Part) (isGlobal : Bool) (occurrence : Nat)
    (line : Bytes) : Option Bytes :=
  let found := (e.findAll line).drop (occurrence - 1)
  let found := if isGlobal then found else found.take 1
  if found.isEmpty then none
  else
    let (text, position) := found.foldl (fun (text, position) (f : Expression.Match) =>
      (text ++ (line.drop position).take (f.start - position) ++ replacement f parts,
        f.start + f.text.length)) (([] : Bytes), 0)
    some (text ++ line.drop position)

/-- What comes after an action. -/
inductive Course where
  | next
  /-- The line is done. -/
  | done (prints : Bool)
  | quit (prints : Bool) (status : Nat)

/-- Applies an action. -/
def act (isQuiet : Bool) (p : Progress) : Action → Progress × Course
  | .substitute e parts isGlobal occurrence prints =>
    match substituted? e parts isGlobal occurrence p.line.text with
    | some text =>
      let p := { p with line := ⟨text, p.line.isEnded⟩ }
      (if prints then p.pushLine else p, .next)
    | none => (p, .next)
  | .exchange pairs =>
    let text := p.line.text.map fun b => (pairs.lookup b).getD b
    ({ p with line := ⟨text, p.line.isEnded⟩ }, .next)
  | .write => (p.pushLine, .next)
  | .writeNumber => (p.push (ascii (toString p.number) ++ [newline]), .next)
  | .drop => (p, .done false)
  | .quit isSilent status => (p, .quit (!isSilent) status)
  | .textAfter bytes => ({ p with added := p.added ++ bytes }, .next)
  | .textBefore bytes => (p.push bytes, .next)
  | .textInstead bytes => (p.push bytes, .done false)
  | .nextLine =>
    match p.rest with
    | [] => (p, .quit true 0)
    | line :: rest =>
      let p := if isQuiet then p else p.pushLine
      ({ (p.push p.added).advance line rest with added := [] }, .next)
  | .joinNext =>
    match p.rest with
    | [] => (p, .quit true 0)
    | line :: rest =>
      (p.advance ⟨p.line.text ++ newline :: line.text, line.isEnded⟩ rest, .next)
  | .keep isAdded =>
    let text := if isAdded then p.kept.text ++ newline :: p.line.text else p.line.text
    ({ p with kept := ⟨text, p.line.isEnded⟩ }, .next)
  | .recall isAdded =>
    let text := if isAdded then p.line.text ++ newline :: p.kept.text else p.kept.text
    ({ p with line := ⟨text, p.kept.isEnded⟩ }, .next)
  | .swap => ({ p with line := p.kept, kept := p.line }, .next)
  | .finish => (p, .done true)
  | .group _ => (p, .next)

/-- Applies the instructions that are for the line. -/
def actAll (isQuiet : Bool) : List Instruction → Progress → Progress × Course
  | [], p => (p, .done true)
  | i :: rest, p =>
    match p.meets? i.condition with
    | (false, p) =>
      match i.action with
      | .group count => actAll isQuiet (rest.drop count) p
      | _ => actAll isQuiet rest p
    | (true, p) =>
      match act isQuiet p i.action with
      | (p, .next) => actAll isQuiet rest p
      | r => r
termination_by instructions => instructions.length
decreasing_by all_goals simp only [List.length_cons, List.length_drop]; omega

/-- Edits the lines that are left. Gives the status if the work was ended by an instruction. -/
def editRest (isQuiet : Bool) (instructions : List Instruction) :
    (fuel : Nat) → Progress → Progress × Nat
  | 0, p => (p, 0)
  | fuel + 1, p =>
    match p.rest with
    | [] => (p, 0)
    | line :: rest =>
      let finish (p : Progress) (prints : Bool) : Progress :=
        let p := if prints && !isQuiet then p.pushLine else p
        { p.push p.added with added := [] }
      match actAll isQuiet instructions (p.advance line rest) with
      | (p, .quit prints status) => (finish p prints, status)
      | (p, .done prints) => editRest isQuiet instructions fuel (finish p prints)
      | (p, .next) => editRest isQuiet instructions fuel (finish p true)

/-- What instructions make of some content, and the status. -/
def edit (isQuiet : Bool) (instructions : List Instruction) (content : Bytes) : Bytes × Nat :=
  let lines := linesOf content
  let lines := lines.zipIdx.map fun (text, i) =>
    (⟨text, i + 1 < lines.length || endsLine content⟩ : Line)
  let start : Progress := ⟨⟨[], true⟩, ⟨[], true⟩, 0, lines, [], [], false, []⟩
  let (p, status) := editRest isQuiet instructions (lines.length + 1) start
  (p.output, status)

end Editing

/-- Edits files or the input. -/
def runSed (c : Call) (m : Machine) : Machine × Nat :=
  let o := Options.ofArguments "efl" c.arguments
  let (scripts, operands) := match o.valuesOf 'e', o.operands with
    | [], script :: operands => ([script], operands)
    | scripts, operands => (scripts, operands)
  let isQuiet := o.has 'n'
  let script := [newline].intercalate scripts
  match Editing.read (o.has 'E' || o.has 'r') script with
  | .error fault =>
    (c.complain m (ascii ("-e expression #1, char " ++ toString (script.length - fault.left) ++ ": "
      ++ fault.text)), 1)
  | .ok instructions =>
    if scripts = [] then
      (m.write c.errors (ascii ("Usage: sed [OPTION]... \x7bscript-only-if-no-other-script\x7d "
        ++ "[input-file]...\n")), 1)
    else
      let complaint (m : Machine) (file : Bytes) (e : Errno) : Machine :=
        match e with
        | .isDirectory =>
          c.complain m (ascii "read error on " ++ file ++ ascii ": " ++ ascii e.text)
        | e => c.complain m (ascii "can't read " ++ file ++ ascii ": " ++ ascii e.text)
      let (m, contents, isFine) := readOperandsWith c complaint m operands
      let statusAfter (status : Nat) : Nat := if isFine then status else 2
      if o.has 'i' then
        let (m, status) := contents.foldl (fun (m, _) (file, content) =>
          let (text, status) := Editing.edit isQuiet instructions content
          ((m.change (m.files.write c.cwd ⟨file⟩ text)).1, status)) (m, 0)
        (m, statusAfter status)
      else
        let all := ((contents.map Prod.snd).dropLast.map fun content =>
          if endsLine content then content else content ++ [newline]) ++
            (contents.map Prod.snd).getLast?.toList
        let (text, status) := Editing.edit isQuiet instructions all.flatten
        (c.say m text, statusAfter status)

end Script

end LintBridge
