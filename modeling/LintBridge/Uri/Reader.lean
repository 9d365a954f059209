import LintBridge.Uri.Basic
import LintBridge.Text.Blank
import LintBridge.Uri.Host

/-!
# Reading addresses

An address is read into normal form. Control characters and spaces at both ends are dropped, tabs
and line breaks everywhere. The scheme decides on the rest. Files have a path that is never empty
and begins with one slash; the host `localhost` is none, and the name of a drive is no host. The
common network schemes need a host and take a backslash for a slash. All other schemes may have a
path that is not divided at all.

Segments of one dot are dropped, and segments of two dots take away the one before them; the name of
a drive stays. In the path of a file, a tab or a line break after the name of a drive at the head
ends a segment.

## Main definitions

* `Uri.read?` — the address that a text denotes.
-/

namespace LintBridge

namespace Uri

/-- What the scheme makes of the rest of an address. -/
inductive Family where
  | file
  | network
  | other
  deriving DecidableEq, Repr

/-- The network schemes, with the port that need not be named. -/
def networkPorts : List (String × Nat) :=
  [("http", 80), ("https", 443), ("ws", 80), ("wss", 443), ("ftp", 21)]

/-- The family of a scheme. -/
def family (scheme : String) : Family :=
  if scheme = fileScheme then .file
  else if (networkPorts.lookup scheme).isSome then .network
  else .other

/-- ASCII letters. -/
def isLetter (c : Char) : Bool := ('a' ≤ c && c ≤ 'z') || ('A' ≤ c && c ≤ 'Z')

/-- The characters of a scheme after its first. -/
def isSchemeChar (c : Char) : Bool :=
  isLetter c || Decimal.isDigit c || c = '+' || c = '-' || c = '.'

/-- Characters that are dropped at the ends of an address. -/
def isEdge (c : Char) : Bool := c.toNat ≤ 0x20

/-- Characters that are dropped everywhere. -/
def isDropped (c : Char) : Bool := c = '\t' || c = '\n' || c = '\r'

/-- The characters of a text that count. -/
def kept (cs : List Char) : List Char := cs.filter (!isDropped ·)

/-- The scheme at the head of a text, and what follows its colon, as it stands. -/
def readScheme? (cs : List Char) : Option (String × List Char) :=
  match cs.span fun c => isSchemeChar c || isDropped c with
  | (word, ':' :: rest) =>
    match kept word with
    | c :: word =>
      if isLetter c then some (String.ofList ((c :: word).map Host.lowerChar), rest) else none
    | [] => none
  | _ => none

/-- Characters that divide segments. -/
def isSlash (f : Family) (c : Char) : Bool := c = '/' || (f ≠ .other && c = Escape.backslash)

/-- Characters that end a path. -/
def endsPath (c : Char) : Bool := c = '?' || c = '#'

/-- Characters that end an authority. -/
def endsAuthority (f : Family) (c : Char) : Bool := isSlash f c || endsPath c

/-! ### Segments -/

/-- The name of a drive: a letter and a colon or a bar. -/
def isDrive : List Char → Bool
  | [c, d] => isLetter c && (d = ':' || d = '|')
  | _ => false

/-- A segment of one dot, perhaps encoded. -/
def isOneDot (s : List Char) : Bool :=
  [".", "%2e"].contains (String.ofList (s.map Host.lowerChar))

/-- A segment of two dots, perhaps encoded. -/
def isTwoDots (s : List Char) : Bool :=
  ["..", "%2e.", ".%2e", "%2e%2e"].contains (String.ofList (s.map Host.lowerChar))

/-- The text between the slashes of a path; there is always one part. -/
def splitSlashes (f : Family) : List Char → List (List Char)
  | [] => [[]]
  | c :: cs =>
    if isSlash f c then [] :: splitSlashes f cs
    else
      match splitSlashes f cs with
      | [] => [[c]]
      | part :: parts => (c :: part) :: parts

/-- The segments without their last, unless that is the name of a drive. -/
def dropSegment (parts : List (List Char)) : List (List Char) :=
  match parts.getLast? with
  | some last => if isDrive last then parts else parts.dropLast
  | none => []

/-- What has been read of a path. -/
structure Trail where
  /-- The segments so far. -/
  segments : List (List Char)
  /-- Whether the first of them was seen to be the name of a drive. -/
  onDrive : Bool
  deriving DecidableEq, Repr

namespace Trail

/-- One more segment. In the address of a file, a first segment that names a drive gets a colon. -/
def push (f : Family) (t : Trail) (segment : List Char) : Trail :=
  match segment with
  | c :: _ =>
    if f = .file ∧ t.segments = [] ∧ isDrive segment then ⟨[[c, ':']], true⟩
    else ⟨t.segments ++ [segment], t.onDrive⟩
  | [] => ⟨t.segments ++ [[]], t.onDrive⟩

/-- Without the last segment, unless that names a drive. -/
def drop (t : Trail) : Trail := ⟨dropSegment t.segments, t.onDrive⟩

/-- With an empty segment at the end. -/
def close (t : Trail) : Trail := ⟨t.segments ++ [[]], t.onDrive⟩

end Trail

/-- A part that begins with a letter and a colon, a dropped character and something more: the letter
with the colon, and what counts of the rest. -/
def brokenDrive? (part : List Char) : Option (List Char × List Char) :=
  match part.dropWhile isDropped with
  | letter :: rest =>
    match rest.dropWhile isDropped with
    | ':' :: c :: rest =>
      if isLetter letter ∧ isDropped c ∧ kept rest ≠ [] then some ([letter, ':'], kept rest)
      else none
    | _ => none
  | [] => none

/-- The segments into which such a part falls at the head of the path of a file. -/
def brokenSegments? (f : Family) (segments : List (List Char)) (part : List Char) :
    Option (List (List Char)) :=
  if f = .file ∧ segments = [] then
    (brokenDrive? part).map fun (drive, rest) => [drive, Percent.encode Percent.pathSet rest]
  else none

/-- The trail that the parts of a path give, after `t`. -/
def followParts (f : Family) (t : Trail) : List (List Char) → Trail
  | [] => t
  | part :: rest =>
    match brokenSegments? f t.segments part with
    | some segments => followParts f ⟨segments, t.onDrive⟩ rest
    | none =>
      let segment := Percent.encode Percent.pathSet (kept part)
      if isTwoDots segment then
        if rest = [] then t.drop.close else followParts f t.drop rest
      else if isOneDot segment then
        if rest = [] then t.close else followParts f t rest
      else followParts f (t.push f segment) rest

/-- The path of a file without empty segments at its head. -/
def dropEmptyHead (segments : List (List Char)) : List (List Char) :=
  match segments.dropWhile (· = []) with
  | [] => [[]]
  | rest => rest

/-- What is read of a path; `cs` follows the first slash. -/
def readTrail (f : Family) (cs : List Char) : Trail :=
  let t := followParts f ⟨[], false⟩ (splitSlashes f cs)
  if f = .file then ⟨dropEmptyHead t.segments, t.onDrive⟩ else t

/-- The segments that a path denotes; `cs` follows the first slash. -/
def readSegments (f : Family) (cs : List Char) : UriPath := .segments (readTrail f cs).segments

/-! ### Authorities -/

/-- The user name and the password before the last at sign, in normal form with that sign. -/
def readUser (cs : List Char) : List Char :=
  let encode := Percent.encode Percent.userSet
  let user := match Text.cutFirst [':'] cs with
    | none => encode cs
    | some (name, []) => encode name
    | some (name, password) => encode name ++ ':' :: encode password
  if user = [] then [] else user ++ ['@']

/-- Where the host ends: at the colon of the port, unless that stands in brackets. -/
def splitPort (inBrackets : Bool) : List Char → List Char × Option (List Char)
  | [] => ([], none)
  | c :: cs =>
    if c = ':' ∧ ¬ inBrackets then ([], some cs)
    else
      let isInside := if c = '[' then true else if c = ']' then false else inBrackets
      let (host, port) := splitPort isInside cs
      (c :: host, port)

/-- The port of some digits: none if there are no digits or it is the one of the scheme. -/
def readPort? (scheme : String) (ds : List Char) : Option (Option Nat) :=
  let n := Decimal.digitsValue ds
  if 65535 < n then none
  else if ds = [] ∨ networkPorts.lookup scheme = some n then some none
  else some (some n)

/-- An authority that was read. -/
structure Authority where
  /-- User, host and port in normal form. -/
  text : List Char
  /-- The host, unless it is empty. -/
  host : Option (List Char)
  /-- What follows the port. -/
  rest : List Char
  deriving DecidableEq, Repr

/-- The user name and the password in normal form, and what follows them in the authority, which
`after` follows. An at sign with nothing before it names no user; if nothing stands behind it in the
authority either, nothing may follow at all. -/
def cutUser? (cs after : List Char) : Option (List Char × List Char) :=
  match Text.cutLast '@' cs with
  | none => some ([], cs)
  | some ([], []) => if after = [] then some ([], []) else none
  | some (user, rest) => some (readUser user, rest)

/-- The authority that a text denotes; `after` follows it. The digits of a port end with the text or
at a backslash, which begins the path then. -/
def readAuthority? (scheme : String) (f : Family) (cs after : List Char) : Option Authority := do
  let (user, cs) ← cutUser? cs after
  let (hostText, portText) := splitPort false cs
  let host ← if f = .other then Host.readOther? hostText else Host.readName? hostText
  let (digits, rest) := (portText.getD []).span Decimal.isDigit
  if host = [] ∧ (user ≠ [] ∨ portText.isSome) then none
  else if rest ≠ [] ∧ rest.head? ≠ some Escape.backslash then none
  else
    let port ← readPort? scheme digits
    let portText := match port with
      | some n => ':' :: Decimal.digits n
      | none => []
    some ⟨user ++ host ++ portText, if host = [] then none else some host, rest ++ after⟩

/-! ### Whole addresses -/

/-- The query and the fragment; `cs` is empty or begins with the mark of one of them. -/
def readTail (f : Family) (cs : List Char) : Option (List Char) × Option (List Char) :=
  let fragment (cs : List Char) := Percent.encode Percent.fragmentSet cs
  match cs with
  | '?' :: rest =>
    let set := if f = .other then Percent.querySet else Percent.networkQuerySet
    let query := Percent.encode set (rest.takeWhile (· ≠ '#'))
    match rest.dropWhile (· ≠ '#') with
    | _ :: after => (some query, some (fragment after))
    | [] => (some query, none)
  | '#' :: rest => (none, some (fragment rest))
  | _ => (none, none)

/-- An address of which everything but the query and the fragment is known. -/
def complete (scheme : String) (authority host : Option (List Char)) (path : UriPath)
    (rest : List Char) : Uri :=
  let (query, fragment) := readTail (family scheme) rest
  ⟨scheme, authority, host, path, query, fragment⟩

/-- Cuts a text where the path ends. -/
def spanPath (cs : List Char) : List Char × List Char := cs.span (!endsPath ·)

/-- A path that follows an authority. It is empty only in the other schemes. -/
def pathAfterAuthority (f : Family) (cs : List Char) : Trail :=
  match cs with
  | [] => if f = .other then ⟨[], false⟩ else readTrail f []
  | c :: rest => readTrail f (if isSlash f c then rest else c :: rest)

/-- The address of a file on the machine itself; `cs` follows the first slash of the path. -/
def localFile (cs : List Char) : Uri :=
  let (path, rest) := spanPath cs
  complete fileScheme (some []) none (readSegments .file path) (kept rest)

/-- The address of a file, from what follows two slashes. A drive drops the host. -/
def readFileHost? (cs : List Char) : Option Uri := do
  let (name, rest) := cs.span (!endsAuthority .file ·)
  let name := kept name
  if isDrive name then some (localFile cs)
  else
    let host ← if name = [] then some [] else Host.readName? name
    if host = [] ∨ host = localHost then some (localFile rest)
    else
      let (path, rest) := spanPath rest
      let trail := pathAfterAuthority .file path
      let host := if trail.onDrive then [] else host
      some (complete fileScheme (some host) (if host = [] then none else some host)
        (.segments trail.segments) (kept rest))

/-- What follows a slash at the head of a text. -/
def afterSlash? (f : Family) (cs : List Char) : Option (List Char) :=
  match cs.dropWhile isDropped with
  | c :: rest => if isSlash f c then some rest else none
  | [] => none

/-- The address of a file, from what follows the scheme. -/
def readFile? (cs : List Char) : Option Uri :=
  match afterSlash? .file cs with
  | none => some (localFile cs)
  | some one =>
    match afterSlash? .file one with
    | none => some (localFile one)
    | some two => readFileHost? two

/-- An address with an authority. -/
def readWithAuthority? (scheme : String) (cs : List Char) : Option Uri := do
  let f := family scheme
  let (authority, rest) := cs.span (!endsAuthority f ·)
  let a ← readAuthority? scheme f authority rest
  let (path, rest) := spanPath a.rest
  some (complete scheme (some a.text) a.host (.segments (pathAfterAuthority f path).segments) rest)

/-- An address of another scheme, from what follows the scheme. -/
def readOther? (scheme : String) (cs : List Char) : Option Uri :=
  match cs with
  | '/' :: '/' :: rest => readWithAuthority? scheme rest
  | '/' :: rest =>
    let (path, rest) := spanPath rest
    some (complete scheme none none (readSegments .other path) rest)
  | _ =>
    let (path, rest) := spanPath cs
    some (complete scheme none none (.whole (Percent.encode (fun _ => false) path)) rest)

/-- A text without what is dropped at its ends. -/
def trimmed (cs : List Char) : List Char := Text.dropEndWhile isEdge (cs.dropWhile isEdge)

/-- The address that a text denotes. -/
def read? (text : String) : Option Uri := do
  let (scheme, rest) ← readScheme? (trimmed text.toList)
  match family scheme with
  | .file => readFile? rest
  | .network => readWithAuthority? scheme ((kept rest).dropWhile (isSlash .network))
  | .other => readOther? scheme (kept rest)

end Uri

end LintBridge
