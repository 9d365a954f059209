import LintBridge.Files.Tree
import LintBridge.Script.Contents
import LintBridge.Script.Pattern

/-!
# The files that patterns stand for

A field that is a pattern stands for the paths of all files whose names it covers, part by part.

## Main definitions

* `Script.Pattern.paths` — the paths that a field stands for.
-/

namespace LintBridge

namespace Script

namespace Pattern

/-- The parts of a field between slashes. -/
def partsOf : Field → List Field
  | [] => [[]]
  | (b, q) :: rest =>
    if b = Path.slash then [] :: partsOf rest
    else
      match partsOf rest with
      | part :: parts => ((b, q) :: part) :: parts
      | [] => [[(b, q)]]

/-- The bytes of a field. -/
def bytesOf (f : Field) : Bytes := f.map Prod.fst

/-- The names in a directory that a part covers, in order. Hidden names need a point. -/
def namesIn (t : Files) (cwd : Place) (directory : Bytes) (part : Field) : List Bytes :=
  let isHidden := (bytesOf part).head? = some Path.dot
  let path := if directory = [] then [Path.dot] else directory
  match t.find cwd ⟨path⟩ true with
  | .error _ => []
  | .ok place =>
    let names := t.names place
    let names := if isHidden then [Path.dot] :: [Path.dot, Path.dot] :: names
      else names.filter fun n => n.head? ≠ some Path.dot
    (names.filter (covers (ofField part))).mergeSort bytesLe

/-- The paths that begin with `start` and go on with these parts. -/
def pathsFrom (t : Files) (cwd : Place) : (parts : List Field) → (start : Bytes) → List Bytes
  | [], start =>
    let isThere := (t.find cwd ⟨start⟩ false).toOption.any fun p => (t.node? p).isSome
    if isThere then [start] else []
  | part :: rest, start =>
    let names := if isPattern part then namesIn t cwd start part else [bytesOf part]
    names.flatMap fun name =>
      let path := start ++ name
      if rest = [] then pathsFrom t cwd [] path
      else pathsFrom t cwd rest (path ++ [Path.slash])

/-- The paths that a field stands for; if there are none, it stands for itself. -/
def paths (t : Files) (cwd : Place) (f : Field) : List Bytes :=
  if isPattern f then
    match pathsFrom t cwd (partsOf f) [] with
    | [] => [bytesOf f]
    | found => found
  else [bytesOf f]

end Pattern

end Script

end LintBridge
