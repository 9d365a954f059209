import LintBridge.Decimal.Whole
import LintBridge.Document.Language

/-!
# The address of a channel

A buffer is handed over through a pipe in a directory of its own, its scope. The name of the scope
is made of the time, a running number and the version of the document, so no two runs share one. The
pipe carries the base name of the document, so rules about file names judge the real name.

## Main definitions

* `Channel.fileName` — the name of the pipe.
* `Channel.scopeName` — the name of the scope.
* `Channel.address` — the whole address.
-/

namespace LintBridge

namespace Channel

/-- The base name of a document that has none. -/
def untitled : String := "untitled"

/-- The file name that a pipe gets for a base name: its last component, with the extension of the
language. -/
def fileName (baseName : String) : Bytes :=
  let name := ((Path.ofString baseName).fileName?).getD (Utf8.encode untitled)
  if Path.nameExtension? name = some Language.extension then name
  else name ++ Path.dot :: Language.extension

/-- The name of the scope of the channel numbered `number`, made at time `stamp` for a document of
this version. -/
def scopeName (stamp number : Nat) (version : Int) : Bytes :=
  Utf8.encode ("protolens-" ++ toString stamp ++ "-" ++ toString number ++ "-" ++ toString version)

/-- The address of a channel, in the directory `temp` for temporary files. -/
def address (temp : Path) (stamp number : Nat) (version : Int) (baseName : String) : Path :=
  (temp.join ⟨scopeName stamp number version⟩).join ⟨fileName baseName⟩

end Channel

end LintBridge
