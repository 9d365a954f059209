import LintBridge.Uri.Basic

/-!
# The folders of the workspace

The editor names the folders of its workspace by addresses. Those that are no files of this machine
are left out. Folders are compared by component and kept as they were first written.

## Main definitions

* `Workspace.initialFolders` — the folders when the editor connects.
* `Workspace.changeFolders` — the folders after some were added and removed.
-/

namespace LintBridge

namespace Workspace

/-- The folders when the editor connects: those that it lists or, if it lists none, its root. -/
def initialFolders (folders : Option (List Uri)) (root : Option Uri) : List Path :=
  match folders with
  | some (f :: fs) => (f :: fs).filterMap Uri.filePath?
  | _ => (root.bind Uri.filePath?).toList

/-- Whether a list has a folder. -/
def hasFolder (folders : List Path) (folder : Path) : Bool :=
  folders.any folder.sameAs

/-- The folders with one more at the end, unless it is there already. -/
def addFolder (folders : List Path) (folder : Path) : List Path :=
  if hasFolder folders folder then folders else folders ++ [folder]

/-- The folders after some were removed and then some were added. -/
def changeFolders (folders : List Path) (added removed : List Uri) : List Path :=
  let removed := removed.filterMap Uri.filePath?
  let kept := folders.filter fun f => !hasFolder removed f
  (added.filterMap Uri.filePath?).foldl addFolder kept

end Workspace

end LintBridge
