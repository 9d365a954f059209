import LintBridge.Document.Language
import LintBridge.Linter.Target
import LintBridge.Uri.Basic

/-!
# Documents

## Main definitions

* `Document` — what is known of an open document.
* `Document.isTarget` — whether it is linted.
* `Document.target` — what a run is made for.
-/

namespace LintBridge

/-- What is known of an open document. -/
structure Document where
  text : String
  /-- The editor's number for the text. -/
  version : Int
  /-- The language, by the editor's name for it; empty if it was never told. -/
  languageId : String
  /-- Whether the text was changed since the document was opened or saved. -/
  isDirty : Bool
  deriving DecidableEq, Repr

namespace Document

/-- Whether the document is linted. The extension is looked for in the path as it is written. -/
def isTarget (d : Document) (uri : Uri) : Bool :=
  Language.isTarget d.languageId uri.scheme (.ofString uri.pathText)

/-- What a run of the linter is made for. -/
def target (d : Document) (uri : Uri) : LintTarget where
  path := if uri.isFile then uri.filePath? else none
  text := d.text
  version := d.version
  isDirty := d.isDirty
  isClosed := false

end Document

end LintBridge
