import LintBridge.Files.Errno
import LintBridge.Path.Basic

/-!
# A tree of files

The files that the bridge and the linter can see, as a table from places to what stands there. A
place is the list of names from the root down. The root itself is always a directory and is not in
the table.

A path name leads to a place by way of the links that it passes. At most 40 links are followed, a
name has at most 255 bytes, and a path name has fewer than 4096. All files can be read and written;
only execution needs a permission.

## Main definitions

* `Node` — what can stand at a place.
* `Files` — the tree.
* `Files.find` — the place that a path name leads to.
* `Files.stat` — what stands there.
* `Files.read`, `Files.write`, `Files.makeDirectory`, `Files.makePipe`, `Files.removeFile`,
  `Files.removeDirectory` — the operations on a tree.
-/

namespace LintBridge

/-- The names from the root down to a file. -/
abbrev Place := List Bytes

/-- What can stand at a place. -/
inductive Node where
  | directory
  /-- A regular file. -/
  | file (content : Bytes) (isExecutable : Bool)
  /-- A symbolic link. -/
  | link (target : Path)
  /-- A named pipe. -/
  | pipe
  /-- The device that is always empty and takes everything. -/
  | sink
  /-- A program of the system. -/
  | program (name : String)
  deriving DecidableEq, Repr

/-- A tree of files. -/
structure Files where
  /-- What stands at each place other than the root. -/
  entries : List (Place × Node)
  deriving DecidableEq, Repr

namespace Files

/-! ### The table -/

/-- The first entry for a place. -/
def lookup (place : Place) : List (Place × Node) → Option Node
  | [] => none
  | (p, n) :: rest => if p = place then some n else lookup place rest

/-- Puts a node at a place, as a new last entry if there was none. -/
def putIn (place : Place) (node : Node) : List (Place × Node) → List (Place × Node)
  | [] => [(place, node)]
  | (p, n) :: rest => if p = place then (p, node) :: rest else (p, n) :: putIn place node rest

/-- Takes the first entry for a place away. -/
def eraseIn (place : Place) : List (Place × Node) → List (Place × Node)
  | [] => []
  | (p, n) :: rest => if p = place then rest else (p, n) :: eraseIn place rest

/-- What stands at a place. -/
def node? (t : Files) (place : Place) : Option Node :=
  if place = [] then some .directory else lookup place t.entries

/-- The tree with a node at a place. -/
def put (t : Files) (place : Place) (node : Node) : Files := ⟨putIn place node t.entries⟩

/-- The tree without what stands at a place. -/
def erase (t : Files) (place : Place) : Files := ⟨eraseIn place t.entries⟩

/-- Whether anything stands below a place. -/
def hasChildren (t : Files) (place : Place) : Bool :=
  t.entries.any fun (p, _) => place.isPrefixOf p && p != place

/-- The names directly below a place. -/
def names (t : Files) (place : Place) : List Bytes :=
  t.entries.filterMap fun (p, _) =>
    if p.dropLast = place then p.getLast? else none

/-! ### Path names -/

/-- The absolute path of a place. -/
def pathOf (place : Place) : Path :=
  if place = [] then ⟨[Path.slash]⟩ else ⟨place.flatMap fun name => Path.slash :: name⟩

/-- How many links are followed on the way to one file. -/
def linkLimit : Nat := 40

/-- How long a name can be. -/
def nameLimit : Nat := 255

/-- How long a path name can be, with the zero byte at its end. -/
def pathLimit : Nat := 4096

/-- Why a path name is refused before any file is looked at. -/
def refusal? (p : Path) : Option Errno :=
  if p.hasZero then some .invalid
  else if pathLimit ≤ p.bytes.length then some .nameTooLong
  else if p.bytes = [] then some .noEntry
  else none

/-- Follows the parts of a path name from a directory. The last part need not exist. If it is a
link, `follows` tells whether it is followed too. From a link that is followed, `jump` goes on: from
the directory of the link or from the root, with the parts of its target before those that are
left. -/
def walkBy (t : Files) (follows : Bool) (jump : Place → List Bytes → Except Errno Place)
    (here : Place) : List Bytes → Except Errno Place
  | [] => .ok here
  | part :: rest =>
    if part = [] ∨ part = [Path.dot] then walkBy t follows jump here rest
    else if part = [Path.dot, Path.dot] then walkBy t follows jump here.dropLast rest
    else if nameLimit < part.length then .error .nameTooLong
    else
      match t.node? (here ++ [part]) with
      | none => if rest = [] then .ok (here ++ [part]) else .error .noEntry
      | some .directory => walkBy t follows jump (here ++ [part]) rest
      | some (.link target) =>
        if rest = [] ∧ ¬ follows then .ok (here ++ [part])
        else jump (if target.isAbsolute then [] else here) (target.parts ++ rest)
      | some _ => if rest = [] then .ok (here ++ [part]) else .error .notDirectory

/-- Follows the parts of a path name from a directory, past so many links at most. -/
def walk (t : Files) (follows : Bool) : (links : Nat) → Place → List Bytes → Except Errno Place
  | 0 => t.walkBy follows fun _ _ => .error .tooManyLinks
  | links + 1 => t.walkBy follows (t.walk follows links)

/-- The place that a path name leads to from the directory `cwd`. -/
def find (t : Files) (cwd : Place) (p : Path) (follows : Bool) : Except Errno Place :=
  match refusal? p with
  | some e => .error e
  | none => walk t follows linkLimit (if p.isAbsolute then [] else cwd) p.parts

/-- What a path name leads to, links followed. -/
def stat (t : Files) (cwd : Place) (p : Path) : Except Errno Node := do
  match t.node? (← t.find cwd p true) with
  | some node => .ok node
  | none => .error .noEntry

/-- Whether a path name leads to anything. -/
def exists? (t : Files) (cwd : Place) (p : Path) : Bool :=
  match t.stat cwd p with
  | .ok _ => true
  | .error _ => false

/-- Whether a path name leads to a regular file. -/
def isFile (t : Files) (cwd : Place) (p : Path) : Bool :=
  match t.stat cwd p with
  | .ok (.file _ _) => true
  | .ok (.program _) => true
  | _ => false

/-- Whether a path name leads to a directory. -/
def isDirectory (t : Files) (cwd : Place) (p : Path) : Bool :=
  match t.stat cwd p with
  | .ok .directory => true
  | _ => false

/-- Whether a path name leads to a file that can be executed. -/
def isExecutable (t : Files) (cwd : Place) (p : Path) : Bool :=
  match t.stat cwd p with
  | .ok (.file _ isExecutable) => isExecutable
  | .ok (.program _) => true
  | _ => false

/-- A path name without the slashes at its end. -/
def withoutEndSlashes (p : Path) : Path :=
  match p.bytes.reverse.dropWhile (· = Path.slash) with
  | [] => p
  | kept => ⟨kept.reverse⟩

/-- The place of a directory, whether there is one or not. Slashes at the end of its path name make
no difference, except for how long it is. -/
def findDirectory (t : Files) (cwd : Place) (p : Path) (follows : Bool) : Except Errno Place :=
  match refusal? p with
  | some e => .error e
  | none => t.find cwd (withoutEndSlashes p) follows

/-! ### Operations -/

/-- The content of a file. -/
def read (t : Files) (cwd : Place) (p : Path) : Except Errno Bytes := do
  match ← t.stat cwd p with
  | .file content _ => .ok content
  | .directory => .error .isDirectory
  | _ => .ok []

/-- The place at which a path name has a file to write to, or where one can be made. -/
def findForWriting (t : Files) (cwd : Place) (p : Path) : Except Errno Place := do
  let place ← t.findDirectory cwd p true
  if p.bytes.getLast? = some Path.slash ∨ t.node? place = some .directory then .error .isDirectory
  else .ok place

/-- Changes the content of a file, which is made if it is missing. -/
def change (t : Files) (place : Place) (f : Bytes → Bytes) : Files :=
  match t.node? place with
  | none => t.put place (.file (f []) false)
  | some (.file content isExecutable) => t.put place (.file (f content) isExecutable)
  | some _ => t

/-- Gives a file new content. It keeps its permission; a missing file is made. -/
def write (t : Files) (cwd : Place) (p : Path) (content : Bytes) : Except Errno Files := do
  let place ← t.findForWriting cwd p
  .ok (t.change place fun _ => content)

/-- Gives a file the permission to be executed, or takes it away. -/
def setExecutable (t : Files) (cwd : Place) (p : Path) (isExecutable : Bool) :
    Except Errno Files := do
  let place ← t.find cwd p true
  match t.node? place with
  | some (.file content _) => .ok (t.put place (.file content isExecutable))
  | some _ => .ok t
  | none => .error .noEntry

/-- Makes a new node at a place where there is nothing. -/
def make (t : Files) (place : Place) (node : Node) : Except Errno Files :=
  match t.node? place with
  | some _ => .error .alreadyExists
  | none => .ok (t.put place node)

/-- Makes a directory. -/
def makeDirectory (t : Files) (cwd : Place) (p : Path) : Except Errno Files := do
  t.make (← t.findDirectory cwd p false) .directory

/-- Makes a named pipe. -/
def makePipe (t : Files) (cwd : Place) (p : Path) : Except Errno Files := do
  t.make (← t.find cwd p false) .pipe

/-- Makes a symbolic link. -/
def makeLink (t : Files) (cwd : Place) (p target : Path) : Except Errno Files := do
  t.make (← t.find cwd p false) (.link target)

/-- Makes a directory and those above it that are missing; `depth` bounds how many these are. -/
def makeDirectoriesUpTo (t : Files) (cwd : Place) : (depth : Nat) → Path → Except Errno Files
  | depth, p =>
    if p.bytes = [] then .ok t
    else
      match t.makeDirectory cwd p with
      | .ok t => .ok t
      | .error e =>
        if e = .noEntry then
          match depth, p.parent? with
          | depth + 1, some parent => do
            let t ← makeDirectoriesUpTo t cwd depth parent
            match t.makeDirectory cwd p with
            | .ok t => .ok t
            | .error e => if t.isDirectory cwd p then .ok t else .error e
          | _, _ => .error e
        else if t.isDirectory cwd p then .ok t
        else .error e

/-- Makes a directory and those above it that are missing. -/
def makeDirectories (t : Files) (cwd : Place) (p : Path) : Except Errno Files :=
  makeDirectoriesUpTo t cwd p.depth p

/-- Removes a file, a link or a pipe. -/
def removeFile (t : Files) (cwd : Place) (p : Path) : Except Errno Files := do
  let place ← t.find cwd p false
  match t.node? place with
  | none => .error .noEntry
  | some .directory => .error .isDirectory
  | some _ => .ok (t.erase place)

/-- Removes an empty directory. -/
def removeDirectory (t : Files) (cwd : Place) (p : Path) : Except Errno Files := do
  let place ← t.findDirectory cwd p false
  match t.node? place with
  | none => .error .noEntry
  | some .directory =>
    if place = [] ∨ t.hasChildren place then .error .notEmpty else .ok (t.erase place)
  | some _ => .error .notDirectory

/-- Moves what a path name leads to. A file at the new place is replaced. -/
def move (t : Files) (cwd : Place) (p q : Path) : Except Errno Files := do
  let source ← t.find cwd p false
  let target ← t.find cwd q false
  match t.node? source, t.node? target with
  | none, _ => .error .noEntry
  | some .directory, some .directory => .error .notEmpty
  | some .directory, some _ => .error .notDirectory
  | some _, some .directory => .error .isDirectory
  | some node, _ =>
    let moved := t.entries.filterMap fun (place, n) =>
      if source.isPrefixOf place ∧ place ≠ source then
        some (target ++ place.drop source.length, n)
      else none
    let kept := t.entries.filter fun (place, _) => !source.isPrefixOf place
    .ok ⟨putIn target node kept ++ moved⟩

end Files

end LintBridge
