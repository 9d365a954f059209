import LintBridge.Script.Shell

/-!
# The commands of the shell itself

The commands that need no program because they change the shell, or because they are used so often.

## Main definitions

* `Shell.builtin?` — runs a command of the shell, if it is one.
* `Shell.isLasting` — the commands after which assignments before them stay.
-/

namespace LintBridge

namespace Script

namespace Shell

/-- The commands after which assignments before them stay. -/
def lastingNames : List Bytes :=
  [":", ".", "break", "continue", "eval", "exec", "exit", "export", "readonly", "return", "set",
    "shift", "trap", "unset"].map ascii

/-- Whether assignments before a command stay after it. -/
def isLasting (name : Bytes) : Bool := lastingNames.contains name

/-- The other commands that need no program. -/
def plainNames : List Bytes :=
  ["[", "cd", "command", "echo", "false", "hash", "jobs", "kill", "local", "printf", "pwd", "read",
    "test", "true", "type", "ulimit", "umask", "wait"].map ascii

/-- Gives the number that the first argument denotes to an action, or ends the shell. -/
def withNumber (s : Shell) (name : Bytes) (arguments : List Bytes) (fallback : Nat)
    (action : Nat → Shell) : Shell :=
  match arguments with
  | [] => action fallback
  | a :: _ =>
    if a ≠ [] ∧ a.all isDigitByte then action (digitsNumber a)
    else (s.complain (name ++ ascii ": Illegal number: " ++ a)).leave 2

/-! ### Variables -/

/-- Splits an argument like `name=value`. -/
def assignment? (argument : Bytes) : Option (Bytes × Bytes) :=
  match argument.dropWhile (· ≠ byte '=') with
  | _ :: value => some (argument.takeWhile (· ≠ byte '='), value)
  | [] => none

/-- Declares a variable for the command `command`, with a value if there is one, and lets `mark` do
the rest. -/
def declare (command : Bytes) (mark : Shell → Bytes → Shell) (s : Shell) (argument : Bytes) :
    Shell :=
  if !s.goesOn then s
  else
    let name := argument.takeWhile (· ≠ byte '=')
    if !isName name then
      (s.complain (command ++ ascii ": " ++ name ++ ascii ": bad variable name")).leave 2
    else
      match assignment? argument with
      | some (name, value) =>
        if s.isFrozen name then
          (s.complain (command ++ ascii ": " ++ name ++ ascii ": is read only")).leave 2
        else (mark s name).assign name value
      | none => mark s name

/-- Declares variables. -/
def declareAll (s : Shell) (command : Bytes) (arguments : List Bytes)
    (mark : Shell → Bytes → Shell) : Shell :=
  arguments.foldl (declare command mark) (s.withStatus 0)

/-- Keeps the value of a variable for the end of the function. -/
def save (s : Shell) (name : Bytes) : Shell :=
  match s.saved with
  | some values =>
    if (values.lookup name).isSome then s
    else { s with saved := some ((name, s.bindings.lookup name) :: values) }
  | none => s

/-- Declares variables of a function. -/
def runLocal (s : Shell) (arguments : List Bytes) : Shell :=
  if s.saved.isNone then (s.complain (ascii "local: not in a function")).leave 2
  else s.declareAll (ascii "local") arguments save

/-- Takes variables and functions away. -/
def runUnset (s : Shell) (arguments : List Bytes) : Shell :=
  let (options, names) := splitOptions arguments
  if hasOption 'f' options then
    { s with
      functions := s.functions.filter fun (n, _) => !names.contains n
      status := 0 }
  else
    names.foldl (fun s name =>
      if !s.goesOn then s
      else if s.isFrozen name then
        (s.complain (ascii "unset: " ++ name ++ ascii ": is read only")).leave 2
      else if !isName name then
        (s.complain (ascii "unset: " ++ name ++ ascii ": bad variable name")).leave 2
      else s.unset name) (s.withStatus 0)

/-! ### Modes and parameters -/

/-- The letters of the modes with long names. -/
def modeNames : List (String × Char) :=
  [("errexit", 'e'), ("nounset", 'u'), ("noglob", 'f'), ("xtrace", 'x'), ("allexport", 'a'),
    ("monitor", 'm'), ("noclobber", 'C'), ("noexec", 'n'), ("verbose", 'v'), ("notify", 'b')]

/-- Sets modes by their letters. -/
def setModes (s : Shell) (isOn : Bool) (letters : Bytes) : Shell :=
  letters.foldl (fun s letter =>
    if !s.goesOn then s
    else
      match s.modes.set? isOn letter with
      | some modes => { s with modes := modes }
      | none =>
        let sign := if isOn then ascii "-" else ascii "+"
        (s.complain (ascii "set: Illegal option " ++ sign ++ [letter])).leave 2) s

/-- Sets the mode with a long name. -/
def setNamedMode (s : Shell) (isOn : Bool) (name : Bytes) : Shell :=
  match modeNames.find? fun (long, _) => ascii long = name with
  | some (_, letter) => s.setModes isOn [byte letter]
  | none => (s.complain (ascii "set: Illegal option -o " ++ name)).leave 2

/-- Sets modes and parameters. -/
def setAll (s : Shell) : List Bytes → Shell
  | [] => s
  | a :: rest =>
    let isOn : Bool := a.head? = some (byte '-')
    let letters := a.tail.filter (· ≠ byte 'o')
    if !s.goesOn then s
    else if a = ascii "--" then { s with parameters := rest }
    else if a.tail = [] ∨ !(isOn || a.head? = some (byte '+')) then
      { s with parameters := a :: rest }
    else if letters ≠ a.tail then
      match rest with
      | [] => s.setModes isOn letters
      | name :: rest => setAll ((s.setModes isOn letters).setNamedMode isOn name) rest
    else setAll (s.setModes isOn letters) rest

/-- Drops the first parameters. -/
def runShift (s : Shell) (arguments : List Bytes) : Shell :=
  s.withNumber (ascii "shift") arguments 1 fun n =>
    if s.parameters.length < n then
      (s.complain (ascii "shift: can't shift that many")).leave 2
    else { s with parameters := s.parameters.drop n, status := 0 }

/-! ### Directories -/

/-- The shell in a directory. -/
def enter (s : Shell) (place : Place) : Shell :=
  let old := (s.bindings.lookup (ascii "PWD")).getD []
  let s := (s.assign (ascii "OLDPWD") old).publish (ascii "OLDPWD")
  { s.assign (ascii "PWD") (Files.pathOf place).bytes with cwd := place, status := 0 }

/-- Changes to a directory. -/
def runCd (s : Shell) (arguments : List Bytes) : Shell :=
  let (_, operands) := splitOptions arguments
  let isBack := operands.head? = some (ascii "-")
  let target := match operands with
    | a :: _ => if isBack then (s.bindings.lookup (ascii "OLDPWD")).getD [] else a
    | [] => (s.bindings.lookup (ascii "HOME")).getD []
  match s.machine.files.find s.cwd ⟨target⟩ true with
  | .ok place =>
    if s.machine.files.node? place = some .directory then
      let s := s.enter place
      if isBack then s.say ((Files.pathOf place).bytes ++ [newline]) else s
    else (s.complain (ascii "cd: can't cd to " ++ target)).withStatus 2
  | .error _ => (s.complain (ascii "cd: can't cd to " ++ target)).withStatus 2

/-! ### Reading lines -/

/-- The bytes of a line with the marks that backslashes leave, if they count. -/
def markLine (isRaw : Bool) : Bytes → List Mark
  | [] => []
  | [b] => [.free b]
  | b :: c :: rest =>
    if b = backslash ∧ !isRaw then .fixed c true :: markLine isRaw rest
    else .free b :: markLine isRaw (c :: rest)

/-- Whether a mark is a blank at which fields end. -/
def isFreeBlank (separators : Bytes) : Mark → Bool
  | .free b => separators.contains b && (isBlankByte b || b = newline)
  | _ => false

/-- Whether a mark ends fields. -/
def isSeparator (separators : Bytes) : Mark → Bool
  | .free b => separators.contains b
  | _ => false

/-- A line divided among some variables: one field for each, and all that is left for the last. -/
def distribute (separators : Bytes) : (names : List Bytes) → List Mark → List (Bytes × Bytes)
  | [], _ => []
  | [name], marks =>
    let marks := marks.dropWhile (isFreeBlank separators)
    let marks := (marks.reverse.dropWhile (isFreeBlank separators)).reverse
    [(name, plain (fieldOf marks))]
  | name :: names, marks =>
    let marks := marks.dropWhile (isFreeBlank separators)
    let first := marks.takeWhile (!isSeparator separators ·)
    let rest := (marks.drop first.length).dropWhile (isFreeBlank separators)
    let rest := match rest with
      | m :: more => if isSeparator separators m then more else rest
      | [] => []
    (name, plain (fieldOf first)) :: distribute separators names rest

/-- Reads a line into variables. -/
def runRead (s : Shell) (arguments : List Bytes) : Shell :=
  let o := Options.ofArguments "p" arguments
  match o.operands.find? s.isFrozen with
  | some name => (s.complain (ascii "read: " ++ name ++ ascii ": is read only")).leave 2
  | none =>
    if o.operands = [] then (s.complain (ascii "read: arg count")).withStatus 2
    else
      let (m, line, isEnded) := s.machine.readLine (s.descriptor? 0)
      let s := { s with machine := m }
      let values := distribute s.separators o.operands (markLine (o.has 'r') line)
      (values.foldl (fun s (name, value) => s.assign name value) s).withStatus (statusOf isEnded)

/-! ### Signals -/

/-- Signals by name. -/
def signalNames : List (String × Nat) :=
  [("HUP", 1), ("INT", 2), ("QUIT", 3), ("ILL", 4), ("TRAP", 5), ("ABRT", 6), ("BUS", 7),
    ("FPE", 8), ("KILL", 9), ("USR1", 10), ("SEGV", 11), ("USR2", 12), ("PIPE", 13), ("ALRM", 14),
    ("TERM", 15)]

/-- The signal that an argument denotes. -/
def signal? (argument : Bytes) : Option Nat :=
  if argument ≠ [] ∧ argument.all isDigitByte then some (digitsNumber argument)
  else
    let bare := if (ascii "SIG").isPrefixOf argument then argument.drop 3 else argument
    (signalNames.find? fun (name, _) => ascii name = bare).map Prod.snd

/-- How signals are sent. -/
def killUsage : Bytes :=
  ascii ("kill: Usage: kill [-s sigspec | -signum | -sigspec] [pid | job]... or\n"
    ++ "kill -l [exitstatus]")

/-- The shell after a signal to itself. A signal can be ignored, or something can be done instead.
-/
def receive (s : Shell) (signal : Nat) : Shell :=
  if signal = 0 then s.withStatus 0
  else
    match (if signal = 9 then none else s.traps.lookup signal) with
    | some [] => s.withStatus 0
    | some action => { s with pending := s.pending ++ [action], status := 0 }
    | none => { s with flow := .killed signal }

/-- Sends a signal. Only the shell itself can be reached. -/
def runKill (s : Shell) (arguments : List Bytes) : Shell :=
  let (signal, targets) : Except Bytes Nat × List Bytes :=
    match arguments with
    | (45 :: 115 :: []) :: name :: rest =>
      ((signal? name).elim (.error (ascii "invalid signal number or name: " ++ name)) .ok, rest)
    | (45 :: b :: name) :: rest =>
      ((signal? (b :: name)).elim (.error (ascii "Illegal option -" ++ [b])) .ok, rest)
    | _ => (.ok 15, arguments)
  match signal, targets with
  | .error complaint, _ => (s.complain (ascii "kill: " ++ complaint)).withStatus 2
  | .ok _, [] => (s.complain killUsage).withStatus 2
  | .ok n, target :: _ =>
    if targets.contains (numeral s.process) then s.receive n
    else if target.all isDigitByte ∨ target.head? = some (byte '-') then
      (s.complain (ascii "kill: No such process\n")).withStatus 1
    else (s.complain (ascii "kill: Illegal number: " ++ target)).withStatus 2

/-- The condition under which something is done: a signal, or the end of the shell. -/
def trapCondition? (name : Bytes) : Option Nat :=
  if name = ascii "EXIT" then some 0 else signal? name

/-- Sets what is done on signals. -/
def runTrap (s : Shell) (arguments : List Bytes) : Shell :=
  let arguments := if arguments.head? = some (ascii "--") then arguments.tail else arguments
  match arguments with
  | [] =>
    let text := (s.traps.mergeSort fun a b => a.1 ≤ b.1).flatMap fun (n, action) =>
      let name := if n = 0 then "EXIT"
        else ((signalNames.find? fun (_, m) => m = n).map Prod.fst).getD (toString n)
      ascii "trap -- '" ++ action ++ ascii ("' " ++ name) ++ [newline]
    (s.say text).withStatus 0
  | action :: names =>
    let isReset := action = ascii "-" || names = [] || action.all isDigitByte && action ≠ []
    let names := if isReset ∧ action ≠ ascii "-" then action :: names else names
    names.foldl (fun s name =>
      match trapCondition? name with
      | none => (s.warn (ascii "trap: " ++ name ++ ascii ": bad trap\n")).withStatus 1
      | some n =>
        let others := s.traps.filter fun (k, _) => k ≠ n
        { s with traps := if isReset then others else (n, action) :: others }) (s.withStatus 0)

/-- Waits for commands in the background, which have always ended before. -/
def runWait (s : Shell) (arguments : List Bytes) : Shell :=
  match arguments with
  | [] => s.withStatus 0
  | a :: _ =>
    if a.all isDigitByte then s.withStatus ((s.children.lookup (digitsNumber a)).getD 127)
    else (s.complain (ascii "wait: Illegal number: " ++ a)).withStatus 2

/-! ### All commands -/

/-- Runs a program of the system as a command of the shell. -/
def runInside (s : Shell) (name : Bytes) (arguments : List Bytes) : Shell :=
  let call := s.call name (s.title ++ ascii ": " ++ name) arguments
  match runTool? (Utf8.lossy name) call s.machine with
  | some (m, status) => { s with machine := m, status := status }
  | none => s

/-- What a name stands for: a word of the shell, a function, a command of the shell or a program. -/
def meaning? (s : Shell) (name : Bytes) : Option (Bytes × Bytes) :=
  if reservedWords.contains name then some (name, name ++ ascii " is a shell keyword")
  else if (s.functions.lookup name).isSome then some (name, name ++ ascii " is a shell function")
  else if isLasting name then some (name, name ++ ascii " is a special shell builtin")
  else if plainNames.contains name then some (name, name ++ ascii " is a shell builtin")
  else
    let searchPath := (s.bindings.lookup (ascii "PATH")).getD []
    match Program.find s.machine.files s.cwd searchPath name with
    | .ok (path, _) => some (path, name ++ ascii " is " ++ path)
    | .error _ => none

/-- Tells what names stand for. -/
def runType (s : Shell) (arguments : List Bytes) : Shell :=
  arguments.foldl (fun s name =>
    match s.meaning? name with
    | some (_, text) => s.say (text ++ [newline])
    | none => (s.say (name ++ ascii ": not found\n")).withStatus 127) (s.withStatus 0)

/-- Runs a command of the shell, if it is one. -/
def builtin? (s : Shell) (name : Bytes) (arguments : List Bytes) : Option Shell :=
  match Utf8.lossy name with
  | ":" => some (s.withStatus 0)
  | "exit" => some (s.withNumber name arguments s.status fun n => s.leave (n % 256))
  | "return" => some (s.withNumber name arguments s.status fun n =>
      { s with status := n, flow := .returned })
  | "break" => some (s.withNumber name arguments 1 fun n =>
      { s with status := 0, flow := .broken n })
  | "continue" => some (s.withNumber name arguments 1 fun n =>
      { s with status := 0, flow := .continued n })
  | "shift" => some (s.runShift arguments)
  | "set" => some ((s.withStatus 0).setAll arguments)
  | "unset" => some (s.runUnset arguments)
  | "export" => some (s.declareAll name arguments publish)
  | "readonly" => some (s.declareAll name arguments fun s n => { s with frozen := n :: s.frozen })
  | "local" => some (s.runLocal arguments)
  | "read" => some (s.runRead arguments)
  | "cd" => some (s.runCd arguments)
  | "kill" => some (s.runKill arguments)
  | "trap" => some (s.runTrap arguments)
  | "wait" => some (s.runWait arguments)
  | "type" => some (s.runType arguments)
  | "umask" => some ((if arguments = [] then s.say (ascii "0022\n") else s).withStatus 0)
  | "ulimit" => some (s.withStatus 0)
  | "hash" => some (s.withStatus 0)
  | "jobs" => some (s.withStatus 0)
  | "true" => some (s.withStatus 0)
  | "false" => some (s.withStatus 1)
  | "echo" => some (s.runInside name arguments)
  | "printf" => some (s.runInside name arguments)
  | "test" => some (s.runInside name arguments)
  | "[" => some (s.runInside name arguments)
  | "pwd" => some (s.runInside name arguments)
  | _ => none

end Shell

end Script

end LintBridge
