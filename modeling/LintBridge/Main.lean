import LintBridge.CommandLine.Run
import LintBridge.Json.Reader
import LintBridge.Server.Session
import LintBridge.Settings.UserFile

/-!
# The program

The program copies the files that a command needs into a tree, runs the command there and prints
what it has to say. The linter works on that copy as well, so it has to be a script.

## Main definitions

* `main` — the program.
-/

namespace LintBridge

namespace Terminal

/-! ### The system -/

/-- The variables that matter, as far as they are set. -/
def readEnvironment : IO Environment := do
  let mut environment : Environment := []
  for name in ["PATH", "HOME", "XDG_CONFIG_HOME"] do
    match ← IO.getEnv name with
    | some value => environment := environment ++ [(Utf8.encode name, Utf8.encode value)]
    | none => pure ()
  return environment

/-- The bytes of a file, if it can be read. -/
def fetch (path : Path) : IO (Option Bytes) := do
  try
    let content ← IO.FS.readBinFile path.display
    return some content.toList
  catch _ => return none

/-- A tree with one more file, which may be executed. -/
def withFile (t : Files) (path : Path) (content : Bytes) : Except Errno Files := do
  let t ← match path.parent? with
    | some parent => t.makeDirectories [] parent
    | none => pure t
  let t ← t.write [] path content
  t.setExecutable [] path true

/-- Copies files into a tree, those that can be read. -/
def copyAll (t : Files) (paths : List Path) : IO Files := do
  let mut t := t
  for path in paths do
    match ← fetch path with
    | some content =>
      match withFile t path content with
      | .ok copied => t := copied
      | .error _ => pure ()
    | none => pure ()
  return t

/-- The files that may turn out to be the executable. -/
def candidates (environment : Environment) (cwd : Path) (setting : Option String) : List Path :=
  let configured := Path.ofString (Executable.configuredPath setting (some cwd))
  cwd.absolute configured :: Executable.candidates environment cwd Executable.defaultName

/-! ### Commands -/

/-- Where a command is run. -/
structure Desk where
  environment : Environment
  cwd : Path
  files : Files
  store : SettingsStore

/-- The place of the current directory. -/
def Desk.place (d : Desk) : Place := d.cwd.components.filterMap fun
  | .name bytes => some bytes
  | _ => none

/-- The desk of this run of the program. -/
def openDesk : IO Desk := do
  let environment ← readEnvironment
  let cwd := Path.ofString (← IO.currentDir).toString
  let t ← copyAll Files.standard (SettingsStore.userFile? environment).toList
  let t := match t.makeDirectories [] cwd with
    | .ok made => made
    | .error _ => t
  let d : Desk := ⟨environment, cwd, t, .inMemory⟩
  return { d with store := .ofUser environment t d.place }

/-- The machine for a command, with the files that it needs. -/
def Desk.machine (d : Desk) (explicit : Option String) (files : List Path) : IO Machine := do
  let setting := explicit.or d.store.current.path
  let t ← copyAll d.files
    (candidates d.environment d.cwd setting ++ files.map d.cwd.absolute)
  return .ofFiles t 0

/-- Prints what a command has to say. -/
def conclude (r : CommandResult) : IO UInt32 := do
  IO.print r.output
  match r.failure with
  | some f =>
    IO.eprintln f.message
    for line in f.cause?.toList ++ f.help?.toList do
      IO.eprintln line
  | none => pure ()
  return r.status.toUInt32

/-! ### Serving an editor -/

/-- The header that tells how many bytes a message has. -/
def lengthHeader : String := "Content-Length: "

/-- The length that a line of a header tells. -/
def length? (line : List Char) : Option Nat :=
  if lengthHeader.toList.isPrefixOf line then
    Decimal.readWhole? Decimal.maxLong (line.drop lengthHeader.length)
  else none

/-- Reads the header of a message: how many bytes follow. None if the input has ended. -/
partial def readHeader (input : IO.FS.Stream) (length : Nat) : IO (Option Nat) := do
  let line ← input.getLine
  if line.isEmpty then return none
  let chars := (Text.trim line).toList
  if chars.isEmpty then return some length
  readHeader input ((length? chars).getD length)

/-- Reads some bytes, fewer if the input ends. -/
partial def readBytes (input : IO.FS.Stream) (length : Nat) (acc : Bytes) : IO Bytes := do
  if length ≤ acc.length then return acc
  let more ← input.read (length - acc.length).toUSize
  if more.isEmpty then return acc
  readBytes input length (acc ++ more.toList)

/-- Writes a message. -/
def send (output : IO.FS.Stream) (j : Json) : IO Unit := do
  let text := j.compact
  output.putStr (lengthHeader ++ toString text.utf8ByteSize ++ "\r\n\r\n" ++ text)
  output.flush

/-- Copies the files that the tasks of a session may need. -/
def provide (cwd : Path) (s : Session) : IO Session := do
  let r := s.rehearsal
  let root := (r.hub.folders.head?).getD cwd
  let documents := r.hub.documents.uris.filterMap Uri.filePath?
  let t ← copyAll r.machine.files
    (candidates r.environment root r.hub.settings.path ++ documents)
  return { s with rehearsal := { r with machine := { r.machine with files := t } } }

/-- Takes a message and does everything that it leads to. Questions to the user are dismissed. -/
def serveOne (cwd : Path) (output : IO.FS.Stream) (s : Session) (number : Nat) (j : Json) :
    IO (Session × Nat) := do
  let (s, reply?) := s.listen j
  let s ← provide cwd s
  match reply? with
  | some r => send output r.toJson
  | none => pure ()
  let s := s.settle.elapse.settle
  let mut number := number
  for message in s.sent do
    send output (message.toJson number)
    if message.isRequest then number := number + 1
  return ({ s with sent := [] }, number)

/-- Serves the editor until it has left or its messages have ended. -/
partial def serve (cwd : Path) (input output : IO.FS.Stream) (s : Session) (number : Nat) :
    IO Unit := do
  match ← readHeader input 0 with
  | none => return
  | some length =>
    let bytes ← readBytes input length []
    match (Utf8.decode? bytes).bind Json.read? with
    | some j =>
      let (s, number) ← serveOne cwd output s number j
      if s.phase = .left then return
      serve cwd input output s number
    | none =>
      send output (Reply.toNoMessage .unreadable).toJson
      serve cwd input output s number

/-- Carries a command out. -/
def perform (d : Desk) : Command → IO UInt32
  | .lint r => do
    let m ← d.machine r.executable r.files
    conclude (r.run d.environment d.place d.store m).2
  | .check explicit => do
    let m ← d.machine explicit []
    conclude (Command.runCheck d.environment d.place d.store m explicit).2
  | .serve => do
    let m ← d.machine none []
    let editor : Editor := ⟨[], [], 0, 0, 0⟩
    let session : Session := .start (.start d.store m d.environment d.place editor)
    serve d.cwd (← IO.getStdin) (← IO.getStdout) session 0
    return 0

/-- Does what a command line asks for. -/
def run (words : List String) : IO UInt32 := do
  match Request.read words with
  | .display text =>
    IO.print text
    return 0
  | .misuse =>
    IO.eprint Request.programUsage.help
    return 2
  | .perform c => perform (← openDesk) c

end Terminal

end LintBridge

/-- The program. -/
def main (words : List String) : IO UInt32 := LintBridge.Terminal.run words
