import LintBridge.Script.Builtin
import LintBridge.Script.Names

/-!
# Running scripts

Words are replaced by what they stand for, descriptors are led elsewhere, and commands are run one
after another, until the script ends or the machine stops. Both sides of a pipe run one after the
other. All functions take fuel; a script that uses it up is taken for one that never ends.

## Main definitions

* `Shell.run` — runs a command.
* `Shell.runText` — runs the lines of a text.
* `Shell.start` — runs a program of the system.
-/

namespace LintBridge

namespace Script

namespace Shell

/-! ### What surrounds a command -/

/-- The shell after a part of its work was done by a copy of it: only the machine and the status
come back. -/
def afterCopy (s copy : Shell) : Shell :=
  { s with
    machine := copy.machine
    status := copy.status
    flow := match copy.flow with
      | .killed n => .killed n
      | _ => .next }

/-- The shell after a program that it has started. -/
def afterProgram (s child : Shell) : Shell :=
  { s with
    machine := child.machine
    status := match child.flow with
      | .killed n => 128 + n
      | _ => child.status
    signal := match child.flow with
      | .killed n => some n
      | _ => none }

/-- A copy of the shell that does a part of its work. It still ignores signals that are ignored, but
does nothing else on signals. -/
def copied (s : Shell) : Shell :=
  { s with
    traps := s.traps.filter fun (_, action) => action = []
    pending := []
    children := [] }

/-- The shell after a program that ran with another environment. -/
def afterSelf (s other : Shell) : Shell :=
  { s with machine := other.machine, status := other.status, signal := other.signal }

/-- The directories in which programs are looked for. -/
def searchPath (s : Shell) : Bytes := (s.bindings.lookup (ascii "PATH")).getD []

/-- The shell with the environment that options and settings at the head of some arguments ask for,
and the other arguments. -/
def environmentOf : List Bytes → Shell → Shell × List Bytes
  | [], s => (s, [])
  | a :: rest, s =>
    if a = ascii "-i" ∨ a = ascii "-" then
      environmentOf rest { s with bindings := [], exported := [] }
    else if isOption a then environmentOf rest s
    else
      match assignment? a with
      | some (name, value) => environmentOf rest ((s.assign name value).publish name)
      | none => (s, a :: rest)

/-- The state in which a new shell starts a script. -/
def forProgram (s : Shell) (name : Bytes) (parameters : List Bytes) : Shell :=
  let child := { s.copied with
    machine := { s.machine with nextProcess := s.machine.nextProcess + 1 }
    bindings := s.environment
    functions := []
    name := name
    parameters := parameters
    process := s.machine.nextProcess
    status := 0
    modes := .usual
    isTested := false
    frozen := []
    saved := none
    flow := .next }
  let child := if (child.bindings.lookup (ascii "PATH")).isSome then child
    else child.assign (ascii "PATH") Files.standardSearchPath
  (child.assign (ascii "PWD") (Files.pathOf s.cwd).bytes).publish (ascii "PWD")

/-- Whether a loop goes on after a round, and the shell after the round. -/
def endRound (s : Shell) : Bool × Shell :=
  match s.flow with
  | .next => (true, s)
  | .broken n => (false, { s with flow := if n ≤ 1 then .next else .broken (n - 1) })
  | .continued n =>
    if n ≤ 1 then (true, { s with flow := .next })
    else (false, { s with flow := .continued (n - 1) })
  | _ => (false, s)

/-- Puts variables back to what they were. -/
def restore (before : Shell) (names : List Bytes) (s : Shell) : Shell :=
  let s := names.foldl (fun s name =>
    match before.bindings.lookup name with
    | some value => s.assign name value
    | none => s.unset name) s
  { s with exported := before.exported }

/-- Ends the shell if its last command has failed and that matters. -/
def afterSimple (s : Shell) : Shell :=
  if s.modes.stopsOnError && !s.isTested && s.status ≠ 0 && s.flow = .next then s.leave s.status
  else s

/-- The line on which a command stands, of which so many bytes are left with what follows. -/
def lineAt (s : Shell) (left : Nat) : Nat :=
  (s.script.take (s.script.length - left)).count newline + 1

/-- Puts variables back to the values that they had before a function. -/
def restoreSaved (s : Shell) : Shell :=
  (s.saved.getD []).foldl (fun s (name, value) =>
    match value with
    | some value => s.assign name value
    | none => s.unset name) s

/-- The directory for which a tilde stands. -/
def home? (s : Shell) (user : Bytes) : Option Bytes :=
  if user = [] then s.bindings.lookup (ascii "HOME")
  else if user = ascii "root" then some (ascii "/root")
  else none

/-- A word with the tilde at its head replaced. -/
def withHome (s : Shell) (word : Word) : Word :=
  match word with
  | .text (126 :: bytes) false :: rest =>
    let user := bytes.takeWhile (· ≠ Path.slash)
    if user = bytes ∧ rest.isEmpty = false then word
    else
      match s.home? user with
      | some path => .text path true :: pushText (bytes.drop user.length) false rest
      | none => word
  | word => word

/-- Tells a command before it runs. -/
def tell (s : Shell) (assigned : List (Bytes × Bytes)) (fields : List Bytes) : Shell :=
  if s.modes.tellsCommands then
    let words := (assigned.map fun (n, v) => n ++ byte '=' :: v) ++ fields
    s.warn (ascii "+ " ++ [32].intercalate words ++ [newline])
  else s

/-- Ends the shell because a variable is missing. -/
def complainOfMissing (s : Shell) (name reason : Bytes) : Shell :=
  (s.complain (name ++ ascii ": " ++ reason)).leave 2

/-- Whether a value is missing and must not be. -/
def isMissing (s : Shell) (name : Bytes) : Bool :=
  s.modes.stopsOnUnset && (s.value? name).isNone && name ≠ ascii "@" && name ≠ ascii "*"

/-- Why a file could not be opened. -/
def fileComplaint (verb missing : String) (file : Bytes) (e : Errno) : Bytes :=
  let reason := if e = .noEntry ∨ e = .notDirectory then missing else e.text
  ascii verb ++ [32] ++ file ++ ascii ": " ++ ascii reason

/-- The status for a program that could not be started. -/
def startStatus (e : Errno) : Nat :=
  if e = .noEntry ∨ e = .notDirectory ∨ e = .tooManyLinks ∨ e = .nameTooLong then 127 else 126

/-- What is in the way of starting a program. -/
def startComplaint (name : Bytes) (e : Errno) : Bytes :=
  name ++ ascii ": " ++ (if e = .noEntry ∨ e = .notDirectory then ascii "not found"
    else ascii e.text)

/-- Leads a descriptor to what a redirection names. -/
def lead (s : Shell) (number : Nat) (kind : RedirectKind) (target : Bytes) :
    Shell × Option Bytes :=
  match kind with
  | .duplicate =>
    if target = ascii "-" then (s.setDescriptor number none, none)
    else
      match s.descriptor? (digitsNumber target) with
      | some d => (s.setDescriptor number (some d), none)
      | none => (s, some (target ++ ascii ": Bad file descriptor"))
  | .document =>
    let (m, stream) := s.machine.newInput target
    ({ s with machine := m }.setDescriptor number (some (.input stream)), none)
  | .read =>
    match s.machine.openStream s.cwd ⟨target⟩ with
    | (m, .ok stream) =>
      ({ s with machine := m }.setDescriptor number (some (.input stream)), none)
    | (m, .error e) =>
      ({ s with machine := m }, some (fileComplaint "cannot open" "No such file" target e))
  | kind =>
    match s.machine.files.findForWriting s.cwd ⟨target⟩ with
    | .error e => (s, some (fileComplaint "cannot create" "Directory nonexistent" target e))
    | .ok place =>
      if s.machine.files.node? place = some .sink then (s.setDescriptor number (some .sink), none)
      else
        let f (old : Bytes) : Bytes := if kind = .append then old else []
        let m := { s.machine with files := s.machine.files.change place f }
        ({ s with machine := m }.setDescriptor number (some (.file place)), none)

/-- The text of a file that is run as a part of the script. A bare name is looked up in the search
path. -/
def sourceOf (s : Shell) (file : Bytes) : Machine × Except Bytes Bytes :=
  let candidates := if file.contains Path.slash then [file]
    else
      ((Program.directories ((s.bindings.lookup (ascii "PATH")).getD [])).map
        fun d => Program.inDirectory d file).filter fun p => s.machine.files.isFile s.cwd ⟨p⟩
  match candidates with
  | [] => (s.machine, .error (file ++ ascii ": not found"))
  | path :: _ =>
    match s.machine.openFile s.cwd ⟨path⟩ with
    | (m, .ok content) => (m, .ok content)
    | (m, .error e) => (m, .error (fileComplaint "cannot open" "No such file" file e))

/-- The path of the file that is run as a script because it names no interpreter. -/
def plainScript? (s : Shell) (name : Bytes) : Option Bytes :=
  let isPlain (path : Bytes) : Bool :=
    match Program.load s.machine.files s.cwd path with
    | .error e => e = .notExecutable
    | .ok _ => false
  if name.contains Path.slash then (if isPlain name then some name else none)
  else
    ((Program.directories ((s.bindings.lookup (ascii "PATH")).getD [])).map
      fun d => Program.inDirectory d name).find? isPlain

/-- Everything up to the last byte that is no line end. -/
def withoutLineEnds (bytes : Bytes) : Bytes := (bytes.reverse.dropWhile (· = newline)).reverse

/-! ### Commands -/

mutual

/-- What a word becomes. -/
def expand : (fuel : Nat) → Word → Shell → Shell × List Mark
  | 0, _, s => ({ s with machine := s.machine.getStuck }, [])
  | _ + 1, [], s => (s, [])
  | fuel + 1, piece :: rest, s =>
    let (s, marks) := expandPiece fuel piece s
    let (s, more) := expand fuel rest s
    (s, marks ++ more)

/-- What a part of a word becomes. -/
def expandPiece : (fuel : Nat) → Piece → Shell → Shell × List Mark
  | 0, _, s => ({ s with machine := s.machine.getStuck }, [])
  | fuel + 1, piece, s =>
    if !s.goesOn then (s, [])
    else
    match piece with
    | .text bytes q =>
      (s, (if q then [.present] else []) ++ bytes.map fun b => .fixed b q)
    | .senseless => ((s.complain (ascii "Bad substitution")).leave 2, [])
    | .value name q =>
      if s.isMissing name then (s.complainOfMissing name (ascii "parameter not set"), [])
      else (s, s.valueMarks name q)
    | .length name q =>
      if s.isMissing name then (s.complainOfMissing name (ascii "parameter not set"), [])
      else (s, marksOf q (numeral ((s.value? name).getD []).length))
    | .fallback kind onlyUnset name word q =>
      let isMissing := match s.value? name with
        | none => true
        | some v => !onlyUnset && v = []
      match kind with
      | .instead => if isMissing then expand fuel word s else (s, s.valueMarks name q)
      | .whenSet => if isMissing then (s, []) else expand fuel word s
      | .assigned =>
        if isMissing then
          let (s, marks) := expand fuel word s
          let value := plain (fieldOf marks)
          (s.assign name value, marksOf q value)
        else (s, s.valueMarks name q)
      | .failing =>
        if isMissing then
          let (s, marks) := expand fuel word s
          let reason := plain (fieldOf marks)
          let usual := if onlyUnset then "parameter not set" else "parameter not set or null"
          (s.complainOfMissing name (if reason = [] then ascii usual else reason), [])
        else (s, s.valueMarks name q)
    | .trimmed atEnd isLongest name pattern q =>
      if s.isMissing name then (s.complainOfMissing name (ascii "parameter not set"), [])
      else
      let (s, marks) := expand fuel pattern s
      let items := Pattern.ofField (fieldOf marks)
      (s, marksOf q (Pattern.trim items atEnd isLongest ((s.value? name).getD [])))
    | .output body q =>
      let (m, stream) := s.machine.newOutput
      let copy := { s.copied with machine := m }.setDescriptor 1 (some (.output stream))
      let s := s.afterCopy (finish fuel (run fuel body copy))
      (s, marksOf q (withoutLineEnds (s.machine.written stream)))
    | .number expression q =>
      let (s, marks) := expand fuel expression s
      let text := plain (fieldOf marks)
      match (Arithmetic.read text).bind fun t => t.value s.value? [] with
      | .ok (n, changed) =>
        let s := changed.reverse.foldl (fun s (name, n) =>
          s.assign name (ascii (toString n.toInt))) s
        (s, marksOf q (ascii (toString n.toInt)))
      | .error fault =>
        if s.goesOn then ((s.complain (fault.message text)).leave 2, []) else (s, [])

/-- The fields that some words become. -/
def expandAll : (fuel : Nat) → List Word → Shell → Shell × List Bytes
  | 0, _, s => ({ s with machine := s.machine.getStuck }, [])
  | _ + 1, [], s => (s, [])
  | fuel + 1, word :: words, s =>
    let (s, marks) := expand fuel (s.withHome word) s
    let fields := match word with
      | [.text [] true, .value [64] true] => if s.parameters = [] then [] else s.fieldsOf marks
      | _ => s.fieldsOf marks
    let fields := if s.modes.keepsPatterns then fields.map plain
      else fields.flatMap (Pattern.paths s.machine.files s.cwd)
    let (s, more) := expandAll fuel words s
    (s, fields ++ more)

/-- The bytes that a word becomes, not divided into fields. -/
def expandOne : (fuel : Nat) → Word → Shell → Shell × Field
  | 0, _, s => ({ s with machine := s.machine.getStuck }, [])
  | fuel + 1, word, s =>
    let (s, marks) := expand fuel (s.withHome word) s
    (s, fieldOf marks)

/-- The values that words become. -/
def valuesOf : (fuel : Nat) → List (Bytes × Word) → Shell → Shell × List (Bytes × Bytes)
  | 0, _, s => ({ s with machine := s.machine.getStuck }, [])
  | _ + 1, [], s => (s, [])
  | fuel + 1, (name, word) :: rest, s =>
    let (s, value) := expandOne fuel word s
    let (s, more) := valuesOf fuel rest (if s.isFrozen name then s else s.assign name (plain value))
    (s, (name, plain value) :: more)

/-- Gives variables the values that words become. -/
def assignAll : (fuel : Nat) → List (Bytes × Word) → Shell → Shell × List (Bytes × Bytes)
  | 0, _, s => ({ s with machine := s.machine.getStuck }, [])
  | fuel + 1, assignments, s =>
    let (s, values) := valuesOf fuel assignments s
    match (if s.goesOn then values.find? fun (name, _) => s.isFrozen name else none) with
    | some (name, _) => ((s.complain (name ++ ascii ": is read only")).leave 2, values)
    | none => (s, values)

/-- Leads descriptors elsewhere, and tells whether that worked. -/
def redirect : (fuel : Nat) → List Redirect → Shell → Shell × Bool
  | 0, _, s => ({ s with machine := s.machine.getStuck }, false)
  | _ + 1, [], s => (s, true)
  | fuel + 1, .mk number kind word :: rest, s =>
    let (s, target) := expandOne fuel word s
    match s.lead number kind (plain target) with
    | (s, none) => redirect fuel rest s
    | (s, some complaint) => ((s.complain complaint).withStatus 2, false)

/-- Runs a command. -/
def run : (fuel : Nat) → Command → Shell → Shell
  | 0, _, s => { s with machine := s.machine.getStuck }
  | fuel + 1, command, s =>
    if !s.goesOn then s
    else
      match command with
      | .nothing => s
      | .simple left assignments words redirects =>
        runSimple fuel left assignments words redirects s
      | .sequence first second => run fuel second (run fuel first s)
      | .both first second =>
        let s := runTested fuel first s
        if s.status = 0 then run fuel second s else s
      | .either first second =>
        let s := runTested fuel first s
        if s.status = 0 then s else run fuel second s
      | .piped first second =>
        let (m, stream) := s.machine.newOutput
        let writer := { s.copied with machine := m }.setDescriptor 1 (some (.output stream))
        let s := s.afterCopy (finish fuel (run fuel first writer))
        let (m, input) := s.machine.newInput (s.machine.written stream)
        let reader := { s.copied with machine := m }.setDescriptor 0 (some (.input input))
        afterSimple (s.afterCopy (finish fuel (run fuel second reader)))
      | .background body =>
        let (m, input) := s.machine.newInput []
        let copy := { s.copied with machine := m }.setDescriptor 0 (some (.input input))
        let r := s.afterProgram (finish fuel (run fuel body copy))
        let process := r.machine.nextProcess
        { s with
          machine := { r.machine with nextProcess := process + 1 }
          children := (process, r.status) :: s.children
          status := 0 }
      | .negated body =>
        let s := runTested fuel body s
        if s.flow = .next then s.withStatus (if s.status = 0 then 1 else 0) else s
      | .grouped body redirects =>
        let (r, isFine) := redirect fuel redirects s
        if isFine then { run fuel body r with descriptors := s.descriptors }
        else { r with descriptors := s.descriptors }
      | .separate body redirects =>
        let (r, isFine) := redirect fuel redirects s
        afterSimple (s.afterCopy (if isFine then finish fuel (run fuel body r.copied) else r))
      | .conditional condition yes no redirects =>
        let (r, isFine) := redirect fuel redirects s
        if isFine then
          let r := runTested fuel condition r
          let r := if !r.goesOn then r
            else if r.status = 0 then run fuel yes (r.withStatus 0)
            else run fuel no (r.withStatus 0)
          { r with descriptors := s.descriptors }
        else { r with descriptors := s.descriptors }
      | .repeated isUntil condition body redirects =>
        let (r, isFine) := redirect fuel redirects s
        if isFine then
          { runLoop fuel isUntil condition body 0 r with descriptors := s.descriptors }
        else { r with descriptors := s.descriptors }
      | .each name words body redirects =>
        let (r, isFine) := redirect fuel redirects s
        if isFine then
          let (r, values) := match words with
            | some words => expandAll fuel words r
            | none => (r, r.parameters)
          { runEach fuel name values body (r.withStatus 0) with descriptors := s.descriptors }
        else { r with descriptors := s.descriptors }
      | .choice word arms redirects =>
        let (r, isFine) := redirect fuel redirects s
        if isFine then
          let (r, subject) := expandOne fuel word r
          { runArms fuel (plain subject) arms r with descriptors := s.descriptors }
        else { r with descriptors := s.descriptors }
      | .definition name body =>
        { s with
          functions := (name, body) :: s.functions.filter fun (n, _) => n ≠ name
          status := 0 }

/-- Runs a command whose status is about to be tested. -/
def runTested : (fuel : Nat) → Command → Shell → Shell
  | 0, _, s => { s with machine := s.machine.getStuck }
  | fuel + 1, command, s =>
    { run fuel command { s with isTested := true } with isTested := s.isTested }

/-- Runs a loop whose last round had this status. -/
def runLoop : (fuel : Nat) → (isUntil : Bool) → (condition body : Command) → (last : Nat) →
    Shell → Shell
  | 0, _, _, _, _, s => { s with machine := s.machine.getStuck }
  | fuel + 1, isUntil, condition, body, last, s =>
    let (goesOn, s) := endRound (runTested fuel condition s)
    if !goesOn || !s.goesOn then s
    else if (s.status = 0) = (isUntil = true) then s.withStatus last
    else
      let (goesOn, s) := endRound (run fuel body s)
      if goesOn && s.goesOn then runLoop fuel isUntil condition body s.status s else s

/-- Runs a command once for each value of a variable. -/
def runEach : (fuel : Nat) → (name : Bytes) → (values : List Bytes) → Command → Shell → Shell
  | 0, _, _, _, s => { s with machine := s.machine.getStuck }
  | _ + 1, _, [], _, s => s
  | fuel + 1, name, value :: values, body, s =>
    if s.isFrozen name then (s.complain (name ++ ascii ": is read only")).leave 2
    else
    let (goesOn, s) := endRound (run fuel body (s.assign name value))
    if goesOn && s.goesOn then runEach fuel name values body s else s

/-- Runs the first arm with a pattern for some bytes. -/
def runArms : (fuel : Nat) → Bytes → List (List Word × Command) → Shell → Shell
  | 0, _, _, s => { s with machine := s.machine.getStuck }
  | _ + 1, _, [], s => s.withStatus 0
  | fuel + 1, subject, (patterns, body) :: arms, s =>
    let (s, isChosen) := anyCovers fuel subject patterns s
    if isChosen then run fuel body (s.withStatus 0) else runArms fuel subject arms s

/-- Whether any of some patterns stands for some bytes. -/
def anyCovers : (fuel : Nat) → Bytes → List Word → Shell → Shell × Bool
  | 0, _, _, s => ({ s with machine := s.machine.getStuck }, false)
  | _ + 1, _, [], s => (s, false)
  | fuel + 1, subject, word :: words, s =>
    let (s, pattern) := expandOne fuel word s
    if Pattern.covers (Pattern.ofField pattern) subject then (s, true)
    else anyCovers fuel subject words s

/-- Runs assignments, or a command by its name. -/
def runSimple : (fuel : Nat) → (left : Nat) → List (Bytes × Word) → List Word → List Redirect →
    Shell → Shell
  | 0, _, _, _, _, s => { s with machine := s.machine.getStuck }
  | fuel + 1, left, assignments, words, redirects, s =>
    let s := { s with line := s.lineAt left, machine := s.machine.advance Machine.commandTime }
    let before := s
    let (s, fields) := expandAll fuel words s
    if !s.goesOn then s
    else
      match fields with
      | [] =>
        let s := if words = [] then s.withStatus 0 else s
        let (s, values) := assignAll fuel assignments s
        if !s.goesOn then s
        else
          let (r, _) := redirect fuel redirects (s.tell values [])
          afterSimple { r with descriptors := before.descriptors }
      | name :: arguments =>
        let names := assignments.map Prod.fst
        let (s, values) := assignAll fuel assignments s
        let s := if assignments.isEmpty || isLasting name then s else names.foldl publish s
        let (s, isFine) := if s.goesOn then redirect fuel redirects (s.tell values fields)
          else (s, true)
        if !s.goesOn then s
        else if !isFine then
          let s := { s with descriptors := before.descriptors }
          if isLasting name then s.leave 2 else afterSimple (restore before names s)
        else
          let s := runNamed fuel name arguments s
          let s := if name = ascii "exec" then s else { s with descriptors := before.descriptors }
          let s := afterSimple
            (if assignments.isEmpty || isLasting name then s else restore before names s)
          if s.pending = [] then s else runPending fuel s

/-- Does what has to be done on the signals that have come. -/
def runPending : (fuel : Nat) → Shell → Shell
  | 0, s => { s with machine := s.machine.getStuck }
  | fuel + 1, s =>
    match s.pending with
    | [] => s
    | action :: rest =>
      if !s.goesOn then s
      else
        let r := runText fuel action { s with pending := rest }
        let r := if r.flow = .next then { r with status := s.status } else r
        runPending fuel { r with script := s.script, line := s.line }

/-- Does what has to be done at the end of a shell. -/
def finish : (fuel : Nat) → Shell → Shell
  | 0, s => { s with machine := s.machine.getStuck }
  | fuel + 1, s =>
    match s.flow, s.traps.lookup 0 with
    | .killed _, _ => s
    | _, none => s
    | _, some action =>
      let others := s.traps.filter fun (n, _) => n ≠ 0
      let r := runText fuel action { s with traps := others, flow := .next, isTested := false }
      if r.flow = .next then { r with status := s.status, flow := s.flow } else r

/-- Runs a function, a command of the shell or a program. -/
def runNamed : (fuel : Nat) → (name : Bytes) → (arguments : List Bytes) → Shell → Shell
  | 0, _, _, s => { s with machine := s.machine.getStuck }
  | fuel + 1, name, arguments, s =>
    match s.functions.lookup name with
    | some body =>
      let r := run fuel body { s with parameters := arguments, saved := some [] }
      { r.restoreSaved with
        parameters := s.parameters
        saved := s.saved
        flow := if r.flow = .returned then .next else r.flow }
    | none => runUsual fuel name arguments s

/-- Runs a command of the shell or a program. -/
def runUsual : (fuel : Nat) → (name : Bytes) → (arguments : List Bytes) → Shell → Shell
  | 0, _, _, s => { s with machine := s.machine.getStuck }
  | fuel + 1, name, arguments, s =>
    match s.builtin? name arguments with
    | some s => s
    | none =>
      if name = ascii "eval" then
        { runText fuel ([32].intercalate arguments) (s.withStatus 0) with script := s.script }
      else if name = ascii "." then
        match arguments with
        | [] => s
        | file :: _ =>
          match s.sourceOf file with
          | (m, .ok content) =>
            let r := runText fuel content ({ s with machine := m }.withStatus 0)
            let flow := if r.flow = .returned then .next else r.flow
            { r with script := s.script, line := s.line, flow := flow }
          | (m, .error complaint) =>
            ({ s with machine := m }.complain (ascii ".: " ++ complaint)).leave 2
      else if name = ascii "exec" then
        match arguments with
        | program :: rest =>
          let r := runProgram fuel (ascii "exec: ") program rest
            { s with signal := none, traps := s.traps.filter fun (_, action) => action = [] }
          if !r.goesOn then r
          else
            match r.signal with
            | some n => { r with flow := .killed n }
            | none => r.leave r.status
        | [] => s.withStatus 0
      else if name = ascii "command" then
        match arguments with
        | program :: rest =>
          if program = ascii "-v" ∨ program = ascii "-V" then
            match s.meaning? (rest.headD []) with
            | some (path, text) =>
              (s.say ((if program = ascii "-v" then path else text) ++ [newline])).withStatus 0
            | none =>
              let text := rest.headD [] ++ ascii ": not found\n"
              (if program = ascii "-v" then s else s.warn text).withStatus 127
          else if program = ascii "-p" then
            match rest with
            | program :: rest => runUsual fuel program rest s
            | [] => s.withStatus 0
          else runUsual fuel program rest s
        | [] => s.withStatus 0
      else runProgram fuel [] name arguments s

/-- Looks a program up and starts it. Complaints that this cannot be done begin with `lead`. -/
def runProgram : (fuel : Nat) → (lead name : Bytes) → (arguments : List Bytes) → Shell → Shell
  | 0, _, _, _, s => { s with machine := s.machine.getStuck }
  | fuel + 1, lead, name, arguments, s =>
    match Program.find s.machine.files s.cwd s.searchPath name with
    | .ok (_, program) => start fuel program name arguments s
    | .error e =>
      match s.plainScript? name with
      | some path => start fuel ⟨"sh", [path]⟩ name arguments s
      | none =>
        { s.complain (lead ++ startComplaint name e) with
          status := startStatus e
          signal := none }

/-- Runs a program of the system. -/
def start : (fuel : Nat) → Program → (name : Bytes) → (arguments : List Bytes) → Shell → Shell
  | 0, _, _, _, s => { s with machine := s.machine.getStuck }
  | fuel + 1, program, name, arguments, s =>
    let s := { s with machine := s.machine.advance Machine.programTime }
    let all := program.arguments ++ arguments
    let call := s.call name name all
    match program.name with
    | "sh" => startShell fuel name all s
    | "dash" => startShell fuel name all s
    | "env" =>
      let (settings, words) := environmentOf all s
      let settings := if (settings.bindings.lookup (ascii "PATH")).isSome then settings
        else settings.assign (ascii "PATH") (ascii "/bin:/usr/bin")
      match words with
      | program :: rest =>
        match Program.find s.machine.files s.cwd s.searchPath program with
        | .error e =>
          if (s.plainScript? program).isSome then
            s.afterSelf (runProgram fuel [] program rest settings)
          else
            let m := call.complain s.machine
              (ascii "'" ++ program ++ ascii "': " ++ ascii e.text)
            { s with machine := m, status := startStatus e }
        | .ok _ => s.afterSelf (runProgram fuel [] program rest settings)
      | [] =>
        let text := settings.environment.flatMap fun (n, v) => n ++ byte '=' :: v ++ [newline]
        (s.say text).withStatus 0
    | "timeout" => startLimited fuel name all s
    | "which" =>
      all.foldl (fun s operand =>
        match Program.find s.machine.files s.cwd s.searchPath operand with
        | .ok (path, _) => s.say (path ++ [newline])
        | .error _ => s.withStatus 1) (s.withStatus 0)
    | "xargs" =>
      let (m, text) := s.machine.readAll (s.descriptor? 0)
      let words := (plain <$> s.fieldsOf (marksOf false text))
      let (options, operands) := splitOptions all
      let command := if operands = [] then [ascii "echo"] else operands
      let s := { s with machine := m }
      if words = [] ∧ hasOption 'r' options then s.withStatus 0
      else runProgram fuel [] (command.headD []) (command.tail ++ words) s
    | other =>
      match runTool? other call s.machine with
      | some (m, status) => { s with machine := m, status := status, signal := none }
      | none => s.withStatus 127

/-- Starts a new shell for a file, for an argument or for the input. -/
def startShell : (fuel : Nat) → (name : Bytes) → (arguments : List Bytes) → Shell → Shell
  | 0, _, _, s => { s with machine := s.machine.getStuck }
  | fuel + 1, name, arguments, s =>
    let (options, operands) := splitOptions arguments
    let modes := (options.flatMap List.tail).foldl (fun m b => (m.set? true b).getD m) Modes.usual
    let run (child : Shell) (text : Bytes) : Shell :=
      s.afterProgram (finish fuel (runText fuel text { child with modes := modes }))
    if hasOption 'c' options then
      match operands with
      | text :: rest => run (s.forProgram (rest.headD name) rest.tail) text
      | [] => (s.warn (name ++ ascii ": 0: -c requires an argument\n")).withStatus 2
    else
      match operands with
      | [] =>
        let (m, text) := s.machine.readAll (s.descriptor? 0)
        run ({ s with machine := m }.forProgram name []) text
      | file :: rest =>
        let child := s.forProgram file rest
        match child.machine.openFile s.cwd ⟨file⟩ with
        | (m, .ok text) => run { child with machine := m } text
        | (m, .error e) =>
          s.afterProgram (({ child with name := name, line := 0, machine := m }.complain
            (fileComplaint "cannot open" "No such file" file e)).leave 2)

/-- Runs a program that is stopped after some time. -/
def startLimited : (fuel : Nat) → (name : Bytes) → (arguments : List Bytes) → Shell → Shell
  | 0, _, _, s => { s with machine := s.machine.getStuck }
  | fuel + 1, name, arguments, s =>
    match (splitOptions arguments).2 with
    | time :: program :: rest =>
      match duration? time with
      | none =>
        let call := s.call name name arguments
        let m := call.complainOfUse s.machine (ascii "invalid time interval '" ++ time ++ ascii "'")
        { s with machine := m, status := 125 }
      | some time =>
        let old := s.machine.deadline
        let limit := s.machine.clock + time
        let isShorter := time ≠ 0 && old.all (limit < ·)
        let machine := if isShorter then { s.machine with deadline := some limit } else s.machine
        let r := runProgram fuel [] program rest { s with machine := machine }
        if isShorter then
          let isLate := r.machine.isOver
          let r := { s with
            machine := { r.machine with deadline := old }
            status := r.status
            signal := r.signal }
          if isLate then r.withStatus 124 else r
        else r
    | _ =>
      let m := (s.call name name arguments).complainOfUse s.machine (ascii "missing operand")
      { s with machine := m, status := 125 }

/-- Runs the lines of a text. -/
def runText : (fuel : Nat) → Bytes → Shell → Shell
  | 0, _, s => { s with machine := s.machine.getStuck }
  | fuel + 1, text, s => runLines fuel text { s with script := text }

/-- Runs the lines that are left of a text. -/
def runLines : (fuel : Nat) → Bytes → Shell → Shell
  | 0, _, s => { s with machine := s.machine.getStuck }
  | fuel + 1, text, s =>
    if !s.goesOn then s
    else
      match readLine text with
      | .ok (none, _) => s
      | .ok (some command, rest) => runLines fuel rest (run fuel command s)
      | .error malformation =>
        let s := { s with line := s.lineAt malformation.left }
        (s.complain (ascii "Syntax error: " ++ malformation.flaw.message)).leave 2

end

end Shell

end Script

end LintBridge
