/-!
# Lines of a text

A line ends at a line feed, or at the end of the text. One carriage return directly before the line
feed belongs to the ending; any other carriage return, and every other separator that Unicode knows,
is an ordinary character of its line. A line feed at the end of the text opens no further line, so
the empty text has no lines.

Editors measure positions in UTF-16 code units, so the width of a line is counted in these.

## Main definitions

* `Line` — what stands on a line, and how it ends.
* `Text.splitLines` — the lines of a text.
* `Text.lines` — the same without their endings.
* `Text.units` — the length of a text in UTF-16 code units.
-/

namespace LintBridge

/-- What ends a line. -/
inductive LineEnding where
  /-- The end of the text. -/
  | endOfText
  /-- A line feed. -/
  | lf
  /-- A carriage return and a line feed. -/
  | crlf
  deriving DecidableEq, Repr

/-- The characters of an ending. -/
def LineEnding.chars : LineEnding → List Char
  | .endOfText => []
  | .lf => ['\n']
  | .crlf => ['\r', '\n']

/-- A line: what stands on it, and how it ends. -/
structure Line where
  /-- The characters before the ending. -/
  body : List Char
  /-- What ends the line. -/
  ending : LineEnding
  deriving DecidableEq, Repr

namespace Text

/-- Puts one more character in front of some lines. A line feed ends a line of its own; a carriage
return joins the line feed it precedes; all else goes to the front of the first line. -/
def pushFront (c : Char) (lines : List Line) : List Line :=
  if c = '\n' then ⟨[], .lf⟩ :: lines
  else
    match lines with
    | [] => [⟨[c], .endOfText⟩]
    | l :: ls =>
      if c = '\r' ∧ l = ⟨[], .lf⟩ then ⟨[], .crlf⟩ :: ls else ⟨c :: l.body, l.ending⟩ :: ls

/-- The lines of a text, with their endings. -/
def splitLines (cs : List Char) : List Line :=
  cs.foldr pushFront []

/-- What stands on the lines of a text. -/
def lines (cs : List Char) : List (List Char) :=
  (splitLines cs).map Line.body

/-- How many UTF-16 code units a character takes. -/
def charUnits (c : Char) : Nat :=
  if c.toNat < 0x10000 then 1 else 2

/-- The length of a text in UTF-16 code units. -/
def units (cs : List Char) : Nat :=
  cs.foldr (fun c n => charUnits c + n) 0

end Text

end LintBridge
