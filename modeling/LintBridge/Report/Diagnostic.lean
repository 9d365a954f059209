import LintBridge.Report.LineTable

/-!
# Diagnostics for the editor

## Main definitions

* `Position`, `Range` — places in a document, as editors name them.
* `Diagnostic` — a message for a range.
* `Diagnostic.ofFinding` — what the editor is shown for a finding.
-/

namespace LintBridge

/-- A place in a document: line and character, both counted from zero, the character in UTF-16 code
units. -/
structure Position where
  line : Nat
  character : Nat
  deriving DecidableEq, Repr

/-- The text between two places. -/
structure Range where
  start : Position
  stop : Position
  deriving DecidableEq, Repr

/-- The range of a whole line. -/
def Span.range (s : Span) : Range :=
  ⟨⟨s.line, 0⟩, ⟨s.line, s.endCharacter⟩⟩

/-- A message that the editor shows at a range. Every diagnostic here is a warning. -/
structure Diagnostic where
  range : Range
  message : String
  deriving DecidableEq, Repr

namespace Diagnostic

/-- Whom the editor names as the origin of a diagnostic. -/
def source : String := "protolint"

/-- The protocol's number for a warning. -/
def severity : Nat := 2

/-- What the editor is shown for a finding: the reason, over the whole line. -/
def ofFinding (f : Finding) : Diagnostic :=
  ⟨f.span.range, f.record.reason⟩

end Diagnostic

end LintBridge
