import LintBridge.CommandLine.Taken
import LintBridge.Report.FileReport
import LintBridge.Server.Greeting
import LintBridge.Settings.Basic

/-!
# What the command line asks for

There are three commands: to lint files, to check that there is an executable, and to serve an
editor. The switch that asks for more to be logged is read and means nothing here, since the log is
no part of the output.

## Main definitions

* `LintRequest`, `Command` — what is to be done.
* `Request`, `Request.read` — what a command line asks for.
-/

namespace LintBridge

/-- Which files are to be linted, and how. -/
structure LintRequest where
  /-- The files, as they were named. -/
  files : List Path
  format : OutputFormat
  executable : Option String
  /-- Whether the linter gets the text of a file through a channel. -/
  usesBuffer : Bool
  /-- Whether the current directory is named to the linter. -/
  passConfigDir : Bool
  /-- How long a run may take, in milliseconds; zero for any time. -/
  timeoutMs : Nat
  deriving DecidableEq, Repr

/-- What is to be done. -/
inductive Command where
  | lint (r : LintRequest)
  | check (executable : Option String)
  | serve
  deriving DecidableEq, Repr

/-- What a command line asks for. -/
inductive Request where
  | perform (c : Command)
  /-- A text is to be shown. -/
  | display (text : String)
  /-- The command line means nothing. -/
  | misuse
  deriving DecidableEq, Repr

namespace Request

/-! ### Switches -/

/-- The switch that asks for more to be logged. -/
def verboseSwitch : Switch := ⟨some 'v', "verbose", .flag, "Enable verbose output"⟩

/-- The switch that asks for help. -/
def helpSwitch : Switch := ⟨some 'h', "help", .help, "Print help"⟩

/-- The switch that asks for the version. -/
def versionSwitch : Switch := ⟨some 'V', "version", .version, "Print version"⟩

/-- The switch that names the form of the reports. -/
def formatSwitch : Switch :=
  ⟨some 'f', "format", .value "FORMAT" (.word ["text", "json"]) (some "text"), "Output format"⟩

/-- The switch that names the executable. -/
def executableSwitch : Switch :=
  ⟨some 'e', "executable", .value "PATH" .text none, "Path to the protolint executable"⟩

/-- The switch that makes the linter get texts through a channel. -/
def bufferSwitch : Switch :=
  ⟨none, "buffer", .flag, "Stream file contents to protolint instead of passing the path"⟩

/-- The switch that makes the current directory be named to the linter. -/
def configDirSwitch : Switch :=
  ⟨none, "config-dir", .flag, "Pass the current directory to protolint as its config directory"⟩

/-- The switch that tells how long a run may take. -/
def timeoutSwitch : Switch :=
  ⟨none, "timeout-ms", .value "MS" .number (some (toString Settings.defaultTimeoutMs)),
    "Timeout for each protolint run in milliseconds (0 disables it)"⟩

/-! ### Commands -/

/-- The name of the command that lints files. -/
def lintName : String := "lint"

/-- The name of the command that checks that there is an executable. -/
def checkName : String := "check"

/-- The name of the command that serves an editor. -/
def serveName : String := "lsp"

/-- The name of the command that shows help. -/
def helpName : String := "help"

/-- A command with the program's name in front. -/
def called (name : String) : String := Server.name ++ " " ++ name

/-- How the command that lints files is used. -/
def lintUsage : Usage where
  name := called lintName
  about := "Lint .proto files with protolint"
  commands := []
  operand := some ⟨"FILES", "Files to lint", true⟩
  switches := [formatSwitch, executableSwitch, bufferSwitch, configDirSwitch, verboseSwitch,
    timeoutSwitch, helpSwitch]

/-- How the command that checks that there is an executable is used. -/
def checkUsage : Usage where
  name := called checkName
  about := "Check that a usable protolint executable can be found"
  commands := []
  operand := none
  switches := [executableSwitch, verboseSwitch, helpSwitch]

/-- How the command that serves an editor is used. -/
def serveUsage : Usage where
  name := called serveName
  about := "Start the LSP server"
  commands := []
  operand := none
  switches := [verboseSwitch, helpSwitch]

/-- How the command that shows help is used. -/
def helpUsage : Usage where
  name := called helpName
  about := "Print this message or the help of the given subcommand(s)"
  commands := []
  operand := some ⟨"COMMAND", "Print help for the subcommand(s)", false⟩
  switches := []

/-- The usages of the commands, by name. -/
def usages : List (String × Usage) :=
  [(lintName, lintUsage), (checkName, checkUsage), (serveName, serveUsage), (helpName, helpUsage)]

/-- How the program is used. -/
def programUsage : Usage where
  name := Server.name
  about := "protolint diagnostics for editors and the command line"
  commands := usages.map fun (name, u) => (name, u.about)
  operand := none
  switches := [verboseSwitch, helpSwitch, versionSwitch]

/-! ### Reading -/

/-- What is to be shown when no more words are taken. -/
def ofHalt (u : Usage) : Halt → Request
  | .help => display u.help
  | .version => display (Server.name ++ " " ++ Server.version ++ "\n")
  | .misuse => misuse

/-- The request of a command of which only some words were taken yet. -/
def ofWords (u : Usage) (command : Taken → Command) (words : List String) : Request :=
  match u.take words with
  | .ok t => perform (command t)
  | .error h => ofHalt u h

/-- The form of the reports that was asked for. -/
def formatOf (t : Taken) : OutputFormat :=
  if t.value? formatSwitch.name = some "json" then .json else .text

/-- How long a run may take. -/
def timeoutOf (t : Taken) : Nat :=
  ((t.value? timeoutSwitch.name).bind ValueKind.number?).getD Settings.defaultTimeoutMs

/-- The files to be linted and how, as they were asked for. -/
def lintRequestOf (t : Taken) : LintRequest where
  files := t.operands.map .ofString
  format := formatOf t
  executable := t.value? executableSwitch.name
  usesBuffer := t.has bufferSwitch.name
  passConfigDir := t.has configDirSwitch.name
  timeoutMs := timeoutOf t

/-- The help on what is named. -/
def helpOn : List String → Request
  | [] => display programUsage.help
  | [name] =>
    match usages.lookup name with
    | some u => display u.help
    | none => misuse
  | _ => misuse

/-- What the words after the name of a command ask for. -/
def ofCommand (name : String) (words : List String) : Request :=
  if name = lintName then ofWords lintUsage (fun t => .lint (lintRequestOf t)) words
  else if name = checkName then
    ofWords checkUsage (fun t => .check (t.value? executableSwitch.name)) words
  else if name = serveName then ofWords serveUsage (fun _ => .serve) words
  else if name = helpName then helpOn words
  else misuse

/-- What a command line asks for. -/
def read (words : List String) : Request :=
  match programUsage.takeWords .nothing words with
  | .error h => ofHalt programUsage h
  | .ok (_, []) => misuse
  | .ok (_, name :: rest) => ofCommand name rest

end Request

end LintBridge
