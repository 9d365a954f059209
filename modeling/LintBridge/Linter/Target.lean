import LintBridge.Path.Basic

/-!
# What a run is made for

## Main definitions

* `LintTarget` — a document at the moment at which a run of the linter begins.
* `LintTarget.mode` — how the document reaches the linter.
-/

namespace LintBridge

/-- How a document reaches the linter. -/
inductive LintMode where
  /-- The linter reads the file. -/
  | file
  /-- The linter reads the buffer, through a channel. -/
  | buffer
  deriving DecidableEq, Repr

/-- A document at the moment at which a run of the linter begins. -/
structure LintTarget where
  /-- The file of the document, if it has one. -/
  path : Option Path
  /-- What the editor shows. -/
  text : String
  /-- The editor's number for this text. -/
  version : Int
  /-- Whether the text has changes that the file has not. -/
  isDirty : Bool
  /-- Whether the document has been closed. -/
  isClosed : Bool
  deriving DecidableEq, Repr

namespace LintTarget

/-- A document as it was saved. -/
def saved (path : Path) (text : String) : LintTarget := ⟨some path, text, 0, false, false⟩

/-- A document with changes. -/
def unsaved (path : Path) (text : String) : LintTarget := ⟨some path, text, 0, true, false⟩

/-- How the document reaches the linter. Only an open document without changes is read from its
file, and only while there is one. -/
def mode (t : LintTarget) (isFile : Path → Bool) : LintMode :=
  match t.path with
  | some path => if !t.isDirty && !t.isClosed && isFile path then .file else .buffer
  | none => .buffer

end LintTarget

end LintBridge
