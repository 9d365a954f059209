import LintBridge.Path.Basic
import LintBridge.Uri.Percent

/-!
# Addresses of documents

Editors name documents and folders by addresses: a scheme, perhaps an authority, a path, perhaps a
query and a fragment. Two addresses name the same document only if all their parts are equal in
normal form.

## Main definitions

* `Uri` — an address in normal form.
* `Uri.text` — the address as it is written.
* `Uri.filePath?` — the file that the path of an address denotes.
-/

namespace LintBridge

/-- The path of an address. -/
inductive UriPath where
  /-- A text that is not divided into segments. -/
  | whole (text : List Char)
  /-- Segments, each with a slash before it. -/
  | segments (parts : List (List Char))
  deriving DecidableEq, Repr

/-- An address in normal form. -/
structure Uri where
  /-- The scheme, in small letters. -/
  scheme : String
  /-- What stands between the two slashes and the path: user, host and port. -/
  authority : Option (List Char)
  /-- The host, unless it is missing or empty. -/
  host : Option (List Char)
  /-- The path, with its characters encoded. -/
  path : UriPath
  query : Option (List Char)
  fragment : Option (List Char)
  deriving DecidableEq, Repr

namespace UriPath

/-- The path as it is written. -/
def chars : UriPath → List Char
  | .whole text => text
  | .segments parts => parts.flatMap ('/' :: ·)

end UriPath

namespace Uri

/-- The scheme of files. -/
def fileScheme : String := "file"

/-- The path as it is written. -/
def pathText (u : Uri) : String := String.ofList u.path.chars

/-- A part that may be missing, with the character that introduces it. -/
def optionalPart (mark : Char) : Option (List Char) → List Char
  | some part => mark :: part
  | none => []

/-- The characters of an address. A path that begins with two slashes is kept apart from an
authority by a dot. -/
def chars (u : Uri) : List Char :=
  let authority := match u.authority with
    | some a => '/' :: '/' :: a
    | none => if ['/', '/'].isPrefixOf u.path.chars then ['/', '.'] else []
  u.scheme.toList ++ ':' :: authority ++ u.path.chars
    ++ optionalPart '?' u.query ++ optionalPart '#' u.fragment

/-- The address as it is written. -/
def text (u : Uri) : String := String.ofList u.chars

/-- Whether the address names a file. -/
def isFile (u : Uri) : Bool := u.scheme = fileScheme

/-- A byte that is an ASCII letter. -/
def isLetterByte (b : UInt8) : Bool := (65 ≤ b && b ≤ 90) || (97 ≤ b && b ≤ 122)

/-- A file name that ends like the name of a drive gets a slash. -/
def closeDrive (bytes : Bytes) : Bytes :=
  match bytes.reverse with
  | last :: letter :: _ :: _ =>
    if isLetterByte letter ∧ (last = 58 ∨ last = 124) then bytes ++ [Path.slash] else bytes
  | _ => bytes

/-- The host of files on the machine itself. -/
def localHost : List Char := "localhost".toList

/-- The file that the path denotes, whatever the scheme; none if the path has no segments or lies on
another host. -/
def filePath? (u : Uri) : Option Path :=
  match u.path with
  | .whole _ => none
  | .segments [] => none
  | .segments parts =>
    if u.host = none ∨ u.host = some localHost then
      some ⟨closeDrive (parts.flatMap fun part => Path.slash :: Percent.decode part)⟩
    else none

end Uri

end LintBridge
