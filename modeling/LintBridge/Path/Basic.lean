import LintBridge.Text.Cut
import LintBridge.Text.Utf8

/-!
# Path names

A path name is a sequence of bytes whose parts are divided by slashes. Two path names are equal as
paths when they have the same components: repeated and trailing slashes do not count, nor does a dot
between slashes. A dot at the very beginning does count, and nothing is done about two dots, since
what they mean depends on links.

## Main definitions

* `Path` — a path name.
* `Path.components` — its components.
* `Path.startsWith` — the prefix relation on components.
* `Path.parent?`, `Path.fileName?`, `Path.extension?` — the parts of a path name.
* `Path.join`, `Path.absolute` — path names relative to others.
-/

namespace LintBridge

/-- A path name. -/
structure Path where
  /-- What the name is written with. -/
  bytes : Bytes
  deriving DecidableEq, Repr, Inhabited

/-- A component of a path name. -/
inductive Component where
  /-- The slash at the beginning of an absolute path. -/
  | root
  /-- A dot at the beginning of a relative path. -/
  | here
  /-- Two dots. -/
  | up
  /-- Any other name. -/
  | name (bytes : Bytes)
  deriving DecidableEq, Repr

namespace Path

/-- The byte that divides the parts. -/
def slash : UInt8 := 47

/-- The byte of a dot. -/
def dot : UInt8 := 46

/-- A path name from its text. -/
def ofString (s : String) : Path := ⟨Utf8.encode s⟩

/-- The path name as a text, for display. -/
def display (p : Path) : String := Utf8.lossy p.bytes

/-- Whether the path name has a zero byte. No file has such a name. -/
def hasZero (p : Path) : Bool := p.bytes.contains 0

/-- Whether the path name begins with a slash. -/
def isAbsolute (p : Path) : Bool := p.bytes.head? == some slash

/-- Whether the path name is taken from some directory. -/
def isRelative (p : Path) : Bool := !p.isAbsolute

/-- The parts between the slashes. -/
def parts (p : Path) : List Bytes := Text.splitAll slash p.bytes

/-- The component that a part stands for, anywhere but at the beginning of a relative path. -/
def componentOf? (part : Bytes) : Option Component :=
  if part = [] ∨ part = [dot] then none
  else if part = [dot, dot] then some .up
  else some (.name part)

/-- The components of a path name. -/
def components (p : Path) : List Component :=
  if p.isAbsolute then .root :: p.parts.filterMap componentOf?
  else
    match p.parts with
    | first :: rest =>
      (if first = [dot] then [.here] else (componentOf? first).toList)
        ++ rest.filterMap componentOf?
    | [] => []

/-- Whether the components of `folder` begin those of the path. -/
def startsWith (p folder : Path) : Bool :=
  folder.components.isPrefixOf p.components

/-- Whether two path names have the same components. -/
def sameAs (p q : Path) : Bool :=
  p.components == q.components

/-- How many components there are. -/
def depth (p : Path) : Nat := p.components.length

/-- Parts that stand for no component. -/
def isVoid (part : Bytes) : Bool := part = [] || part = [dot]

/-- The parts without those at the end that stand for no component. -/
def dropVoid (parts : List Bytes) : List Bytes :=
  (parts.reverse.dropWhile isVoid).reverse

/-- The parts put together again. -/
def ofParts (parts : List Bytes) : Path := ⟨[slash].intercalate parts⟩

/-- The path without its last component, as it is written; `none` for the root and for the empty
path. -/
def parent? (p : Path) : Option Path :=
  match p.components.getLast? with
  | none => none
  | some .root => none
  | some _ =>
    if p.isAbsolute then
      match dropVoid (dropVoid p.parts.tail).dropLast with
      | [] => some ⟨[slash]⟩
      | parts => some ⟨slash :: (ofParts parts).bytes⟩
    else
      match p.parts with
      | first :: rest =>
        match dropVoid rest with
        | [] => some ⟨[]⟩
        | kept => some (ofParts (first :: dropVoid kept.dropLast))
      | [] => none

/-- The last component, if it is a name. -/
def fileName? (p : Path) : Option Bytes :=
  match p.components.getLast? with
  | some (.name n) => some n
  | _ => none

/-- What follows the last dot of a name, unless the name has no other dot than one at its beginning.
-/
def nameExtension? (name : Bytes) : Option Bytes :=
  if name = [dot, dot] then none
  else
    match Text.cutLast dot name with
    | some ([], _) => none
    | some (_, extension) => some extension
    | none => none

/-- The extension of the last component. -/
def extension? (p : Path) : Option Bytes :=
  p.fileName?.bind nameExtension?

/-- The path `q`, taken from the directory `p` if it is relative. -/
def join (p q : Path) : Path :=
  if q.isAbsolute then q
  else if p.bytes = [] then q
  else if p.bytes.getLast? = some slash then ⟨p.bytes ++ q.bytes⟩
  else ⟨p.bytes ++ slash :: q.bytes⟩

end Path

/-- How a component is written. -/
def Component.bytes : Component → Bytes
  | .root => [Path.slash]
  | .here => [Path.dot]
  | .up => [Path.dot, Path.dot]
  | .name n => n

namespace Path

/-- The path as an absolute one, taken from `cwd` if it is relative. Dots are dropped, two dots are
kept, and so is a slash at the end. Exactly two slashes at the beginning are kept as well. -/
def absolute (cwd p : Path) : Path :=
  let names := (p.components.filter fun c => c ≠ .here ∧ c ≠ .root).map Component.bytes
  let start : Path :=
    if p.isAbsolute then
      match p.bytes with
      | 47 :: 47 :: 47 :: _ => ⟨[slash]⟩
      | 47 :: 47 :: _ => ⟨[slash, slash]⟩
      | _ => ⟨[slash]⟩
    else cwd
  let whole := names.foldl (fun q n => q.join ⟨n⟩) start
  if p.bytes.getLast? = some slash ∧ whole.bytes.getLast? ≠ some slash then
    ⟨whole.bytes ++ [slash]⟩
  else whole

end Path

end LintBridge
