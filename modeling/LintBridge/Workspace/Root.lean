import LintBridge.Path.Basic

/-!
# The workspace root of a document

## Main definitions

* `Workspace.owner?` — the deepest folder that contains a document.
* `Workspace.root?` — the folder that a run of the linter is made for.
-/

namespace LintBridge

namespace Workspace

/-- The deeper of two folders; the second of two that are equally deep. -/
def deeper (a b : Path) : Path :=
  if b.depth < a.depth then a else b

/-- The deepest folder that contains the document, as written last among equal ones. -/
def owner? (document : Path) (folders : List Path) : Option Path :=
  match folders.filter document.startsWith with
  | [] => none
  | f :: fs => some (fs.foldl deeper f)

/-- The workspace root for a document: its owner, or else the first folder. -/
def root? (document : Option Path) (folders : List Path) : Option Path :=
  match document.bind (owner? · folders) with
  | some folder => some folder
  | none => folders.head?

end Workspace

end LintBridge
