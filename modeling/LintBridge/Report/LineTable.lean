import LintBridge.Report.Record

/-!
# The line table of a document

The linter names lines by number, counted from one. Editors name ranges, with lines counted from
zero and characters in UTF-16 code units. The line table of a document's text passes from one to the
other. Even an empty document has one line that an editor can show.

## Main definitions

* `Span` — a whole line of a document.
* `LineTable.ofText` — the table of a text.
* `LineTable.span?` — the span of a numbered line.
* `LineTable.resolve` — records with their spans, those of missing lines left out.
-/

namespace LintBridge

/-- A whole line of a document, from its first character on. -/
structure Span where
  /-- The line, counted from zero. -/
  line : Nat
  /-- Where the line ends, in UTF-16 code units. -/
  endCharacter : Nat
  deriving DecidableEq, Repr

/-- A record together with the line of the document that it speaks of. -/
structure Finding where
  /-- What the linter reported. -/
  record : Record
  /-- Where the document has the line. -/
  span : Span
  deriving DecidableEq, Repr

/-- The widths of a document's lines. -/
structure LineTable where
  /-- The width of each line without its ending, in UTF-16 code units. -/
  widths : List Nat
  deriving DecidableEq, Repr

namespace LineTable

/-- The table of a text. -/
def ofText (text : List Char) : LineTable :=
  match (Text.lines text).map Text.units with
  | [] => ⟨[0]⟩
  | widths => ⟨widths⟩

/-- The number of lines. -/
def lineCount (t : LineTable) : Nat := t.widths.length

/-- The span of the line numbered `n`, counted from one; `none` if there is no such line. -/
def span? (t : LineTable) (n : Nat) : Option Span :=
  match n with
  | 0 => none
  | line + 1 => t.widths[line]?.map fun width => ⟨line, width⟩

/-- The records whose lines the document has, in order, each with its span. -/
def resolve (t : LineTable) (records : List Record) : List Finding :=
  records.filterMap fun r => (t.span? r.line).map fun span => ⟨r, span⟩

end LineTable

end LintBridge
