import LintBridge.Script.Command
import LintBridge.Text.Cut

/-!
# Reading shell scripts

A script is read one line at a time, each line up to the end of its last command, so that a script
with a fault at its end can still run up to there. All functions take fuel that exceeds the length
of what is left.

## Main definitions

* `Script.Flaw` — what is wrong with a script.
* `Script.readLine` — the commands on the next line of a script.
-/

namespace LintBridge

namespace Script

/-! ### Characters -/

def newline : UInt8 := 10
def backslash : UInt8 := 92
def singleQuote : UInt8 := 39
def doubleQuote : UInt8 := 34
def backquote : UInt8 := 96
def dollar : UInt8 := 36

/-- Blanks between words. -/
def isBlankByte (b : UInt8) : Bool := b = 32 || b = 9

/-- Bytes that end a word. -/
def isMeta (b : UInt8) : Bool :=
  isBlankByte b || b = newline || [byte ';', byte '&', byte '|', byte '<', byte '>', byte '(',
    byte ')'].contains b

def isDigitByte (b : UInt8) : Bool := 48 ≤ b && b ≤ 57

def isNameStart (b : UInt8) : Bool :=
  (65 ≤ b && b ≤ 90) || (97 ≤ b && b ≤ 122) || b = 95

def isNameByte (b : UInt8) : Bool := isNameStart b || isDigitByte b

/-- Whether some bytes name a variable. -/
def isName (bs : Bytes) : Bool := bs.head?.any isNameStart && bs.all isNameByte

/-- Parameters that are named by one other character. -/
def isSpecial (b : UInt8) : Bool :=
  [byte '@', byte '*', byte '#', byte '?', byte '$', byte '!', byte '-'].contains b

/-- What a number of digits denotes. -/
def digitsNumber (ds : Bytes) : Nat := ds.foldl (fun n d => n * 10 + (d.toNat - 48)) 0

/-- The text without the blanks, joined lines and comments at its head. -/
def skipBlanksUpTo : (fuel : Nat) → Bytes → Bytes
  | 0, bs => bs
  | _, [] => []
  | fuel + 1, b :: bs =>
    if isBlankByte b then skipBlanksUpTo fuel bs
    else if b = backslash ∧ bs.head? = some newline then skipBlanksUpTo fuel bs.tail
    else if b = byte '#' then (b :: bs).dropWhile (· ≠ newline)
    else b :: bs

/-- The text without the blanks, joined lines and comments at its head. -/
def skipBlanks (bs : Bytes) : Bytes := skipBlanksUpTo (bs.length + 1) bs

/-- The text without the blanks and empty lines at its head. -/
def skipLinesUpTo : (fuel : Nat) → Bytes → Bytes
  | 0, bs => bs
  | fuel + 1, bs =>
    match skipBlanks bs with
    | 10 :: rest => skipLinesUpTo fuel rest
    | rest => rest

/-- The text without the blanks and empty lines at its head. -/
def skipLines (bs : Bytes) : Bytes := skipLinesUpTo (bs.length + 1) bs

/-- The word at the head of a text as it is written. -/
def peekWord (bs : Bytes) : Bytes := bs.takeWhile (!isMeta ·)

/-- The text after a word at its head that is written so. -/
def afterWord? (word : String) (bs : Bytes) : Option Bytes :=
  if peekWord bs = ascii word then some (bs.drop (ascii word).length) else none

/-- The words that end a list of commands. -/
def closingWords : List Bytes :=
  ["then", "do", "done", "fi", "else", "elif", "esac", "\x7d"].map ascii

/-- The words with a meaning of their own. -/
def reservedWords : List Bytes :=
  closingWords ++ ["!", "case", "for", "if", "in", "until", "while", "\x7b"].map ascii

/-- Whether a list of commands ends here. -/
def endsList (bs : Bytes) : Bool :=
  match bs with
  | [] => true
  | b :: rest =>
    b = byte ')' || (b = byte ';' && rest.head? = some (byte ';'))
      || closingWords.contains (peekWord bs)

/-! ### Flaws -/

/-- What is wrong with a script. -/
inductive Flaw where
  /-- Something stands where something else is expected. -/
  | unexpected (token : Bytes) (expected : Option Bytes)
  | openQuote
  | openBackquote
  | openBrace
  | openSum
  | badLoopVariable
  | badFunctionName
  deriving DecidableEq, Repr

/-- A flaw, and how much of the text is left after it. -/
structure Malformation where
  flaw : Flaw
  left : Nat
  deriving DecidableEq, Repr

namespace Flaw

/-- What is said about a flaw. -/
def message : Flaw → Bytes
  | .unexpected token none => token ++ ascii " unexpected"
  | .unexpected token (some expected) =>
    token ++ ascii " unexpected (expecting " ++ expected ++ ascii ")"
  | .openQuote => ascii "Unterminated quoted string"
  | .openBackquote => ascii "EOF in backquote substitution"
  | .openBrace => ascii "Missing '\x7d'"
  | .openSum => ascii "Missing '))'"
  | .badLoopVariable => ascii "Bad for loop variable"
  | .badFunctionName => ascii "Bad function name"

end Flaw

/-- A mark or a word as it is named in messages. -/
def quoted (token : String) : Bytes := ascii ("\"" ++ token ++ "\"")

/-- What stands at the head of a text, as it is named in messages, and the text after it. -/
def tokenAt (bs : Bytes) : Bytes × Bytes :=
  let bs := skipBlanks bs
  match bs with
  | [] => (ascii "end of file", [])
  | b :: rest =>
    match [";;", ";", "&&", "&", "||", "|", "(", ")"].find? fun m => (ascii m).isPrefixOf bs with
    | some mark => (quoted mark, bs.drop mark.length)
    | none =>
      if b = newline then (ascii "newline", rest)
      else
        match bs.dropWhile isDigitByte with
        | c :: rest =>
          if c = byte '<' ∨ c = byte '>' then (ascii "redirection", rest)
          else
            let word := peekWord bs
            let name := if reservedWords.contains word then doubleQuote :: word ++ [doubleQuote]
              else ascii "word"
            (name, bs.drop word.length)
        | [] => (ascii "word", [])

/-- A text with something unexpected at its head. -/
def unexpectedAt (expected : Option Bytes) (bs : Bytes) : Malformation :=
  let (token, rest) := tokenAt bs
  ⟨.unexpected token expected, rest.length⟩

/-- What reading a text gives, unless the text has a flaw. -/
abbrev Reading := Except Malformation

/-- What is read when the fuel is used up. -/
def Reading.exhausted {α : Type} : Reading α :=
  .error ⟨.unexpected (ascii "end of file") none, 0⟩

/-- The text after a word that must follow. -/
def expectWord (word : String) (bs : Bytes) : Reading Bytes :=
  match afterWord? word bs with
  | some rest => .ok rest
  | none => .error (unexpectedAt (some (quoted word)) bs)

/-- The text after a closing parenthesis that must follow. -/
def expectClosing (bs : Bytes) : Reading Bytes :=
  match skipBlanks bs with
  | 41 :: rest => .ok rest
  | rest => .error (unexpectedAt (some (quoted ")")) rest)

/-! ### Words -/

/-- What surrounds a part of a word. -/
inductive Surround where
  | none
  | quotes
  | braces (isQuoted : Bool)
  /-- Arithmetic, with the number of parentheses that are open. -/
  | sum (depth : Nat)
  /-- Lines that are read as they stand. -/
  | document

/-- Whether text here is quoted. -/
def Surround.isQuoted : Surround → Bool
  | .none => false
  | .quotes => true
  | .braces isQuoted => isQuoted
  | .sum _ => true
  | .document => true

/-- Whether braces are around the text. -/
def Surround.isBraces : Surround → Bool
  | .braces _ => true
  | _ => false

/-- Whether quotes and backslashes have their full meaning here. -/
def Surround.isOpen : Surround → Bool
  | .none => true
  | .braces false => true
  | _ => false

/-- Whether a part of a word ends before this byte. -/
def Surround.endsAt (s : Surround) (b : UInt8) : Bool :=
  match s with
  | .none => isMeta b
  | .quotes => b = doubleQuote
  | .braces _ => b = byte '\x7d'
  | .sum depth => b = byte ')' && depth = 0
  | .document => false

/-- The flaw of a text that ends here. -/
def Surround.flaw? : Surround → Option Flaw
  | .none => Option.none
  | .quotes => some .openQuote
  | .braces _ => some .openBrace
  | .sum _ => some .openSum
  | .document => Option.none

/-- Whether a backslash before this byte stands for no byte. -/
def Surround.escapes (s : Surround) (b : UInt8) : Bool :=
  match s with
  | .document => [dollar, backquote, backslash].contains b
  | s => s.isOpen || [dollar, backquote, doubleQuote, backslash].contains b
    || (s.isBraces && b = byte '\x7d')

/-- Puts text in front of some pieces. -/
def pushText (bytes : Bytes) (isQuoted : Bool) : Word → Word
  | .text more q :: rest =>
    if q = isQuoted then .text (bytes ++ more) q :: rest
    else .text bytes isQuoted :: .text more q :: rest
  | pieces => .text bytes isQuoted :: pieces

/-- The text up to the next backquote that is not escaped. -/
def readBackquoted? : Bytes → Option (Bytes × Bytes)
  | [] => none
  | 92 :: b :: bs =>
    (readBackquoted? bs).map fun (inner, rest) =>
      (if b = backquote ∨ b = backslash ∨ b = dollar then b :: inner else backslash :: b :: inner,
        rest)
  | b :: bs =>
    if b = backquote then some ([], bs)
    else (readBackquoted? bs).map fun (inner, rest) => (b :: inner, rest)

/-- The name of a variable or a parameter at the head of a text. -/
def readName? (isBraced : Bool) : Bytes → Option (Bytes × Bytes)
  | [] => none
  | b :: bs =>
    if isNameStart b then some ((b :: bs).takeWhile isNameByte, (b :: bs).dropWhile isNameByte)
    else if isDigitByte b then
      if isBraced then some ((b :: bs).takeWhile isDigitByte, (b :: bs).dropWhile isDigitByte)
      else some ([b], bs)
    else if isSpecial b then some ([b], bs)
    else none

/-- The name in an assignment at the head of a text, and what follows the equals sign. -/
def readAssigned? (bs : Bytes) : Option (Bytes × Bytes) :=
  if bs.head?.any isNameStart then
    match bs.dropWhile isNameByte with
    | 61 :: rest => some (bs.takeWhile isNameByte, rest)
    | _ => none
  else none

/-- The mark of a redirection at the head of a text: its descriptor, what it does, and the text
after it. -/
def redirectMark? (bs : Bytes) : Option (Nat × RedirectKind × Bytes) :=
  let digits := bs.takeWhile isDigitByte
  let bs := bs.drop digits.length
  let marks : List (String × Nat × RedirectKind) :=
    [(">>", 1, .append), (">&", 1, .duplicate), (">|", 1, .write), (">", 1, .write),
      ("<<", 0, .document), ("<&", 0, .duplicate), ("<>", 0, .read), ("<", 0, .read)]
  (marks.find? fun (mark, _) => (ascii mark).isPrefixOf bs).map fun (mark, number, kind) =>
    (if digits = [] then number else digitsNumber digits, kind, bs.drop mark.length)

/-- Takes the lines of a document out of the text after its mark: they begin on the next line and
end before the delimiter. -/
def takeDocument (delimiter : Bytes) (stripsTabs : Bool) (bs : Bytes) : Bytes × Bytes :=
  match bs.dropWhile (· ≠ newline) with
  | [] => ([], bs)
  | _ :: below =>
    let lines := Text.splitAll newline below
    let bare (line : Bytes) : Bytes := if stripsTabs then line.dropWhile (· = 9) else line
    let inside := lines.takeWhile fun line => bare line ≠ delimiter
    let outside := lines.drop (inside.length + 1)
    let content := [newline].intercalate (inside.map bare)
    let isEnded := inside.length < lines.length
    (if isEnded ∧ inside ≠ [] then content ++ [newline] else content,
      bs.takeWhile (· ≠ newline) ++ newline :: [newline].intercalate outside)

/-- The bytes of a word that stands for itself, and whether any of them is quoted. -/
def delimiterOf (word : Word) : Bytes × Bool :=
  (word.flatMap fun
    | .text bytes _ => bytes
    | .value name _ => dollar :: name
    | _ => [],
    word.any fun
      | .text _ q => q
      | _ => false)

mutual

/-- The pieces up to the end of a word, or of what surrounds them. -/
def readPieces : (fuel : Nat) → Surround → Bytes → Reading (Word × Bytes)
  | 0, _, _ => .exhausted
  | _ + 1, s, [] =>
    match s.flaw? with
    | none => .ok ([], [])
    | some flaw => .error ⟨flaw, 0⟩
  | fuel + 1, s, b :: bs =>
    let text (bytes : Bytes) (isQuoted : Bool) (s : Surround) (rest : Bytes) :
        Reading (Word × Bytes) := do
      let (pieces, rest) ← readPieces fuel s rest
      .ok (pushText bytes isQuoted pieces, rest)
    if s.endsAt b then .ok ([], b :: bs)
    else if b = singleQuote ∧ s.isOpen then
      match bs.dropWhile (· ≠ singleQuote) with
      | _ :: rest => text (bs.takeWhile (· ≠ singleQuote)) true s rest
      | [] => .error ⟨.openQuote, 0⟩
    else if b = doubleQuote ∧ s.isOpen then do
      let (inner, rest) ← readPieces fuel .quotes bs
      let (pieces, rest) ← readPieces fuel s rest.tail
      .ok (.text [] true :: inner ++ pieces, rest)
    else if b = doubleQuote ∧ s.isBraces then readPieces fuel s bs
    else if b = backslash then
      match bs with
      | c :: rest =>
        if c = newline then readPieces fuel s rest
        else if s.escapes c then text [c] true s rest
        else text [b] true s bs
      | [] => text [b] true s bs
    else if b = dollar then
      match bs.head?, readName? false bs with
      | some 40, _ => do
        let (piece, rest) ← readParenthesis fuel s.isQuoted bs.tail
        let (pieces, rest) ← readPieces fuel s rest
        .ok (piece :: pieces, rest)
      | some 123, _ => do
        let (piece, rest) ← readBraced fuel s.isQuoted bs.tail
        let (pieces, rest) ← readPieces fuel s rest
        .ok (piece :: pieces, rest)
      | _, some (name, rest) => do
        let (pieces, rest) ← readPieces fuel s rest
        .ok (.value name s.isQuoted :: pieces, rest)
      | _, none => text [b] s.isQuoted s bs
    else if b = backquote then
      match readBackquoted? bs with
      | some (inner, rest) => do
        let (body, left) ← readList fuel false inner
        if left ≠ [] then .error { unexpectedAt none left with left := rest.length }
        else
          let (pieces, rest) ← readPieces fuel s rest
          .ok (.output body s.isQuoted :: pieces, rest)
      | none => .error ⟨.openBackquote, 0⟩
    else
      let s := match s with
        | .sum depth =>
          .sum (if b = byte '(' then depth + 1 else if b = byte ')' then depth - 1 else depth)
        | s => s
      text [b] s.isQuoted s bs

/-- What a dollar sign and an opening parenthesis introduce: arithmetic after a second parenthesis,
otherwise commands. -/
def readParenthesis : (fuel : Nat) → (isQuoted : Bool) → Bytes → Reading (Piece × Bytes)
  | 0, _, _ => .exhausted
  | fuel + 1, isQuoted, bs =>
    if bs.head? = some (byte '(') then do
      let (expression, rest) ← readPieces fuel (.sum 0) bs.tail
      if (ascii "))").isPrefixOf rest then .ok (.number expression isQuoted, rest.drop 2)
      else .error ⟨.openSum, rest.length⟩
    else do
      let (body, rest) ← readList fuel false bs
      let rest ← expectClosing rest
      .ok (.output body isQuoted, rest)

/-- A parameter in braces, after the opening one. -/
def readBraced : (fuel : Nat) → (isQuoted : Bool) → Bytes → Reading (Piece × Bytes)
  | 0, _, _ => .exhausted
  | fuel + 1, isQuoted, bs =>
    let word (isQuotedInside : Bool) (f : Word → Piece) (rest : Bytes) :
        Reading (Piece × Bytes) := do
      let (pieces, rest) ← readPieces fuel (.braces isQuotedInside) rest
      .ok (f pieces, rest.tail)
    let bare (name rest : Bytes) : Reading (Piece × Bytes) :=
      match rest with
      | [] => .error ⟨.openBrace, 0⟩
      | a :: after =>
        let onlyUnset : Bool := a ≠ byte ':'
        let after := if onlyUnset then a :: after else after
        let kind? := after.head?.bind fun mark =>
          [(byte '-', Fallback.instead), (byte '=', .assigned), (byte '+', .whenSet),
            (byte '?', .failing)].lookup mark
        match kind? with
        | some kind =>
          word isQuoted (fun w => .fallback kind onlyUnset name w isQuoted) after.tail
        | none =>
          if a = newline then .error ⟨.openBrace, rest.length⟩
          else if a = byte '\x7d' then .ok (.value name isQuoted, after.tail)
          else if a = byte '%' ∨ a = byte '#' then
            let isLongest : Bool := after.tail.head? = some a
            word false (fun w => .trimmed (a = byte '%') isLongest name w isQuoted)
              (if isLongest then after.tail.tail else after.tail)
          else word isQuoted (fun _ => .senseless) after
    match bs with
    | 35 :: c :: rest =>
      if c = byte '\x7d' then .ok (.value [35] isQuoted, rest)
      else
        match readName? true (c :: rest) with
        | some (name, 125 :: rest) => .ok (.length name isQuoted, rest)
        | _ => bare [35] (c :: rest)
    | _ =>
      match readName? true bs with
      | some (name, rest) => bare name rest
      | none =>
        if bs.head? = some newline then .error ⟨.openBrace, bs.length⟩
        else word isQuoted (fun _ => .senseless) bs

/-- What a redirection leads to, after its mark. -/
def readTarget : (fuel : Nat) → RedirectKind → Bytes → Reading (Word × Bytes)
  | 0, _, _ => .exhausted
  | fuel + 1, kind, bs => do
    let stripsTabs : Bool := kind = .document && bs.head? = some (byte '-')
    let (word, rest) ← readPieces fuel .none (skipBlanks (if stripsTabs then bs.tail else bs))
    if word.isEmpty then .error (unexpectedAt none rest)
    else if kind ≠ .document then .ok (word, rest)
    else
      let (delimiter, isQuoted) := delimiterOf word
      let (content, rest) := takeDocument delimiter stripsTabs rest
      if isQuoted then .ok ([.text content true], rest)
      else
        let (pieces, _) ← readPieces fuel .document content
        .ok (.text [] true :: pieces, rest)

/-- The redirections at the head of a text. -/
def readRedirects : (fuel : Nat) → Bytes → Reading (List Redirect × Bytes)
  | 0, _ => .exhausted
  | fuel + 1, bs =>
    let bs := skipBlanks bs
    match redirectMark? bs with
    | some (descriptor, kind, rest) => do
      let (word, rest) ← readTarget fuel kind rest
      let (more, rest) ← readRedirects fuel rest
      .ok (.mk descriptor kind word :: more, rest)
    | none => .ok ([], bs)

/-- The words of a command, assignments and redirections among them. One word before parentheses
names a function. -/
def readSimple : (fuel : Nat) → (left : Nat) → (assignments : List (Bytes × Word)) →
    (words : List Word) → (redirects : List Redirect) → Bytes → Reading (Command × Bytes)
  | 0, _, _, _, _, _ => .exhausted
  | fuel + 1, left, assignments, words, redirects, bs =>
    let bs := skipBlanks bs
    match redirectMark? bs with
    | some (descriptor, kind, rest) => do
      let (word, rest) ← readTarget fuel kind rest
      readSimple fuel left assignments words (redirects ++ [.mk descriptor kind word]) rest
    | none =>
      match (if words.isEmpty then readAssigned? bs else none) with
      | some (name, rest) => do
        let (value, rest) ← readPieces fuel .none rest
        readSimple fuel left (assignments ++ [(name, value)]) words redirects rest
      | none => do
        let (word, rest) ← readPieces fuel .none bs
        if !word.isEmpty then
          readSimple fuel left assignments (words ++ [word]) redirects rest
        else
          match assignments, words, redirects, rest with
          | [], [], [], _ => .error (unexpectedAt none rest)
          | [], [name], [], 40 :: rest =>
            let rest ← expectClosing rest
            match name with
            | [.text name false] =>
              if isName name then
                let (body, rest) ← readCommand fuel (skipLines rest)
                .ok (.definition name body, rest)
              else .error ⟨.badFunctionName, rest.length⟩
            | _ => .error ⟨.badFunctionName, rest.length⟩
          | _, _, _, _ => .ok (.simple left assignments words redirects, rest)

/-- A list of commands, then a word that must follow it. -/
def readUpTo : (fuel : Nat) → (word : String) → Bytes → Reading (Command × Bytes)
  | 0, _, _ => .exhausted
  | fuel + 1, word, bs => do
    let (body, rest) ← readList fuel true bs
    let rest ← expectWord word rest
    .ok (body, rest)

/-- The branches after the condition of a conditional. -/
def readBranches : (fuel : Nat) → Bytes → Reading ((Command × Command) × Bytes)
  | 0, _ => .exhausted
  | fuel + 1, bs => do
    let (whenTrue, rest) ← readList fuel true bs
    match afterWord? "else" rest, afterWord? "elif" rest with
    | some rest, _ =>
      let (whenFalse, rest) ← readUpTo fuel "fi" rest
      .ok ((whenTrue, whenFalse), rest)
    | _, some rest =>
      let (condition, rest) ← readUpTo fuel "then" rest
      let ((yes, no), rest) ← readBranches fuel rest
      .ok ((whenTrue, .conditional condition yes no []), rest)
    | none, none =>
      let rest ← expectWord "fi" rest
      .ok ((whenTrue, .nothing), rest)

/-- Words up to the end of the line or a semicolon. -/
def readWords : (fuel : Nat) → Bytes → Reading (List Word × Bytes)
  | 0, _ => .exhausted
  | fuel + 1, bs => do
    let (word, rest) ← readPieces fuel .none (skipBlanks bs)
    if word.isEmpty then
      match rest with
      | b :: after =>
        if b = newline ∨ (b = byte ';' ∧ after.head? ≠ some (byte ';')) then .ok ([], after)
        else .error (unexpectedAt none rest)
      | [] => .error (unexpectedAt none rest)
    else
      let (words, rest) ← readWords fuel rest
      .ok (word :: words, rest)

/-- The patterns of an arm, up to the closing parenthesis. -/
def readPatterns : (fuel : Nat) → Bytes → Reading (List Word × Bytes)
  | 0, _ => .exhausted
  | fuel + 1, bs => do
    let (word, rest) ← readPieces fuel .none (skipBlanks bs)
    let rest := skipBlanks rest
    if rest.head? = some (byte '|') then
      let (more, rest) ← readPatterns fuel rest.tail
      .ok (word :: more, rest)
    else
      let rest ← expectClosing rest
      .ok ([word], rest)

/-- The arms of a choice, up to its end. -/
def readArms : (fuel : Nat) → Bytes → Reading (List (List Word × Command) × Bytes)
  | 0, _ => .exhausted
  | fuel + 1, bs =>
    let bs := skipLines bs
    match afterWord? "esac" bs with
    | some rest => .ok ([], rest)
    | none => do
      let (patterns, rest) ← readPatterns fuel (if bs.head? = some (byte '(') then bs.tail else bs)
      let (body, rest) ← readList fuel false rest
      let rest ← (if (ascii ";;").isPrefixOf rest then .ok (rest.drop 2)
        else if (afterWord? "esac" rest).isSome then .ok rest
        else .error (unexpectedAt (some (quoted ";;")) rest))
      let (arms, rest) ← readArms fuel rest
      .ok ((patterns, body) :: arms, rest)

/-- A command other than a pipeline. -/
def readCommand : (fuel : Nat) → Bytes → Reading (Command × Bytes)
  | 0, _ => .exhausted
  | fuel + 1, bs =>
    let bs := skipBlanks bs
    let redirected (f : List Redirect → Command) (rest : Bytes) : Reading (Command × Bytes) := do
      let (redirects, rest) ← readRedirects fuel rest
      .ok (f redirects, rest)
    let word := peekWord bs
    let after := bs.drop word.length
    if word = ascii "if" then do
      let (condition, rest) ← readUpTo fuel "then" after
      let ((yes, no), rest) ← readBranches fuel rest
      redirected (.conditional condition yes no) rest
    else if word = ascii "while" ∨ word = ascii "until" then do
      let (condition, rest) ← readUpTo fuel "do" after
      let (body, rest) ← readUpTo fuel "done" rest
      redirected (.repeated (word = ascii "until") condition body) rest
    else if word = ascii "for" then do
      let (loopName, rest) ← readPieces fuel .none (skipBlanks after)
      match loopName with
      | [.text name false] =>
        if !isName name then .error ⟨.badLoopVariable, rest.length⟩
        else
          let rest := skipLines rest
          let (words, rest) ← (match afterWord? "in" rest with
            | some rest => do
              let (words, rest) ← readWords fuel rest
              .ok (some words, rest)
            | none => .ok (none, if rest.head? = some (byte ';') then rest.tail else rest) :
              Reading (Option (List Word) × Bytes))
          let rest ← expectWord "do" (skipLines rest)
          let (body, rest) ← readUpTo fuel "done" rest
          redirected (.each name words body) rest
      | _ => .error ⟨.badLoopVariable, (tokenAt after).2.length⟩
    else if word = ascii "case" then do
      let (subject, rest) ← readPieces fuel .none (skipBlanks after)
      if subject.isEmpty then .error (unexpectedAt (some (ascii "word")) rest)
      else
        let rest ← expectWord "in" (skipLines rest)
        let (arms, rest) ← readArms fuel rest
        redirected (.choice subject arms) rest
    else if word = ascii "\x7b" then do
      let (body, rest) ← readUpTo fuel "\x7d" after
      redirected (.grouped body) rest
    else if bs.head? = some (byte '(') then do
      let (body, rest) ← readList fuel true bs.tail
      let rest ← expectClosing rest
      redirected (.separate body) rest
    else if reservedWords.contains word then .error (unexpectedAt none bs)
    else readSimple fuel bs.length [] [] [] bs

/-- Commands joined by bars. -/
def readPipeline : (fuel : Nat) → Bytes → Reading (Command × Bytes)
  | 0, _ => .exhausted
  | fuel + 1, bs =>
    let bs := skipBlanks bs
    match afterWord? "!" bs with
    | some rest => do
      let (body, rest) ← readPipeline fuel rest
      .ok (.negated body, rest)
    | none => do
      let (first, rest) ← readCommand fuel bs
      let rest := skipBlanks rest
      if rest.head? = some (byte '|') ∧ rest.tail.head? ≠ some (byte '|') then
        let (second, rest) ← readPipeline fuel (skipLines rest.tail)
        .ok (.piped first second, rest)
      else .ok (first, rest)

/-- Pipelines joined by `&&` and `||`, after the first of them. -/
def readChain : (fuel : Nat) → (first : Command) → Bytes → Reading (Command × Bytes)
  | 0, _, _ => .exhausted
  | fuel + 1, first, bs =>
    let join (f : Command → Command → Command) (rest : Bytes) : Reading (Command × Bytes) := do
      let (second, rest) ← readPipeline fuel (skipLines rest)
      readChain fuel (f first second) rest
    let bs := skipBlanks bs
    if (ascii "&&").isPrefixOf bs then join .both (bs.drop 2)
    else if (ascii "||").isPrefixOf bs then join .either (bs.drop 2)
    else .ok (first, bs)

/-- Pipelines joined by `&&` and `||`, and whether anything waits for them. -/
def readChained : (fuel : Nat) → Bytes → Reading (Command × Bytes)
  | 0, _ => .exhausted
  | fuel + 1, bs => do
    let (first, rest) ← readPipeline fuel bs
    let (chain, rest) ← readChain fuel first rest
    if rest.head? = some (byte '&') then .ok (.background chain, rest) else .ok (chain, rest)

/-- The commands up to something that ends a list. If they are required, there is at least one. -/
def readList : (fuel : Nat) → (isRequired : Bool) → Bytes → Reading (Command × Bytes)
  | 0, _, _ => .exhausted
  | fuel + 1, isRequired, bs =>
    let bs := skipLines bs
    if bs = [] ∨ (!isRequired ∧ endsList bs) then .ok (.nothing, bs)
    else do
      let (first, rest) ← readChained fuel bs
      match rest with
      | b :: after =>
        if b = newline ∨ b = byte '&' ∨ (b = byte ';' ∧ after.head? ≠ some (byte ';')) then
          let (second, rest) ← readList fuel false after
          .ok (.sequence first second, rest)
        else .ok (first, rest)
      | [] => .ok (first, [])

end

/-- The commands on one line, up to its end. -/
def readLineFrom : (fuel : Nat) → Bytes → Reading (Command × Bytes)
  | 0, _ => .exhausted
  | fuel + 1, bs => do
    let (first, rest) ← readChained fuel bs
    match rest with
    | [] => .ok (first, [])
    | b :: after =>
      if b = newline then .ok (first, after)
      else if b = byte '&' ∨ (b = byte ';' ∧ after.head? ≠ some (byte ';')) then
        match skipBlanks after with
        | [] => .ok (first, [])
        | c :: rest =>
          if c = newline then .ok (first, rest)
          else
            let (second, rest) ← readLineFrom fuel (c :: rest)
            .ok (.sequence first second, rest)
      else .error (unexpectedAt none rest)

/-- The commands on the next line of a script, if there are any. -/
def readLine (script : Bytes) : Reading (Option Command × Bytes) :=
  let script := skipLines script
  if script = [] then .ok (none, [])
  else
    (readLineFrom (8 * script.length + 16) script).map fun (command, rest) =>
      (some command, rest)

end Script

end LintBridge
