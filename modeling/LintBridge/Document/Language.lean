import LintBridge.Path.Basic

/-!
# Documents that are linted

A document is linted if it lies in a place that the linter can be given it from and is written in
the language that the linter knows. An editor that names no language leaves the decision to the
extension of the file.

## Main definitions

* `Language.isTarget` — whether a document is linted.
* `Language.hasTargetExtension` — whether a path has the extension of the language.
-/

namespace LintBridge

namespace Language

/-- The names of the language. -/
def ids : List String := ["proto", "proto3"]

/-- The schemes of documents that can be linted. An untitled document has no file, so it is always
handed over as a buffer. -/
def schemes : List String := ["file", "untitled"]

/-- The extension of files in the language. -/
def extension : Bytes := Utf8.encode "proto"

/-- An ASCII letter as a small one; every other byte as it is. -/
def lowerByte (b : UInt8) : UInt8 := if 65 ≤ b ∧ b ≤ 90 then b + 32 else b

/-- Whether a path has the extension of the language, in letters of either case. -/
def hasTargetExtension (path : Path) : Bool :=
  match path.extension? with
  | some e => e.map lowerByte == extension
  | none => false

/-- Whether a document of this language, at this place, is linted. -/
def isTarget (languageId scheme : String) (path : Path) : Bool :=
  schemes.contains scheme
    && (if languageId = "" then hasTargetExtension path else ids.contains languageId)

end Language

end LintBridge
