import LintBridge.Decimal.Whole
import LintBridge.Text.Blank
import LintBridge.Text.Cut
import LintBridge.Text.Lines

/-!
# Records of the linter

The linter reports one problem per line, as `[<path>:<line>:<column>] <reason>`. Nothing in the
format is escaped. The reason begins after the first `] `, so it may hold any separator; the header
before it is read from the right, so the path may hold colons. A line that does not have this form
is no record.

## Main definitions

* `Record` — the line number and the reason of a problem.
* `Record.read?` — the record written on a line.
* `Record.ofLine` — the same, with `Record.absent` for a line that is no record.
* `Record.write` — a record as the linter writes it.
* `Record.readAll` — the records of a whole output.
-/

namespace LintBridge

/-- A problem that the linter reports. -/
structure Record where
  /-- The line of the problem, counted from one. -/
  line : Nat
  /-- What the linter says about it. -/
  reason : String
  deriving DecidableEq, Repr

namespace Record

/-- What separates the header from the reason. -/
def separator : List Char := [']', ' ']

/-- The characters that may end a line of the output. -/
def isLineEnd (c : Char) : Bool := c = '\r' || c = '\n'

/-- The line number in the header `[<path>:<line>:<column>`. Blanks around it do not matter. Lines
are counted from one, so zero is no line number, and a number has 32 bits at most. -/
def readHeader? (header : List Char) : Option Nat :=
  match header with
  | '[' :: fields => do
    let (front, _) ← Text.cutLast ':' fields
    let (_, number) ← Text.cutLast ':' front
    let line ← Decimal.readWhole? Decimal.maxWord (Text.trimChars number)
    if line = 0 then none else some line
  | _ => none

/-- The record written on a line, whatever the line's ending. -/
def read? (line : List Char) : Option Record := do
  let (header, reason) ← Text.cutFirst separator (Text.dropEndWhile isLineEnd line)
  if reason = [] then none
  else
    let number ← readHeader? header
    some ⟨number, String.ofList reason⟩

/-- What stands for a line that is no record. -/
def absent : Record := ⟨0, ""⟩

/-- What a line is read as. -/
def ofLine (line : List Char) : Record := (read? line).getD absent

/-- A record as the linter writes it, for a problem at `column` of the file `path`. -/
def write (path : List Char) (column : Nat) (r : Record) : List Char :=
  ['['] ++ path ++ [':'] ++ Decimal.digits r.line ++ [':'] ++ Decimal.digits column ++ separator
    ++ r.reason.toList

/-- The records of an output, in order. -/
def readAll (output : List Char) : List Record :=
  (Text.lines output).filterMap read?

end Record

end LintBridge
