import LintBridge.Script.Contents

/-!
# Programs on files

The programs that make, move, list and remove files, or take their names apart.

## Main definitions

* `Script.runFileTool?` — runs a program, if it is one of these.
-/

namespace LintBridge

namespace Script

/-- Whether an operand names a directory. -/
def isDirectory (c : Call) (m : Machine) (file : Bytes) : Bool :=
  m.files.isDirectory c.cwd ⟨file⟩

/-- Where something goes that is copied or moved to `target`. -/
def destination (c : Call) (m : Machine) (source target : Bytes) : Bytes :=
  if isDirectory c m target then
    ((Path.mk target).join ⟨((Path.mk source).fileName?).getD []⟩).bytes
  else target

/-- Removes a directory with all that it contains, or a single file. -/
def removeTree (c : Call) (m : Machine) (file : Bytes) : Machine × Option Errno :=
  match m.files.find c.cwd ⟨file⟩ false with
  | .error e => (m, some e)
  | .ok place =>
    if (m.files.node? place).isNone then (m, some .noEntry)
    else
      ({ m with files :=
          ⟨m.files.entries.filter fun (p, _) => !place.isPrefixOf p⟩ }, none)

/-- Complains that there are too few operands. -/
def complainOfOperands (c : Call) (m : Machine) (operands : List Bytes) (what : String) :
    Machine × Nat :=
  match operands with
  | [] => (c.complainOfUse m (ascii ("missing " ++ what)), 1)
  | a :: _ =>
    (c.complainOfUse m (ascii "missing destination file operand after '" ++ a ++ ascii "'"), 1)

/-- Removes files. -/
def runRm (c : Call) (m : Machine) : Machine × Nat :=
  let (options, operands) := splitOptions c.arguments
  let isForced := hasOption 'f' options
  let isDeep := hasOption 'r' options || hasOption 'R' options
  if operands = [] ∧ !isForced then (c.complainOfUse m (ascii "missing operand"), 1)
  else
    operands.foldl (fun (m, status) file =>
      let (m, failure) :=
        if isDeep then removeTree c m file else m.change (m.files.removeFile c.cwd ⟨file⟩)
      match failure with
      | none => (m, status)
      | some e =>
        if isForced ∧ e = .noEntry then (m, status)
        else (c.complainThat m "cannot remove" file e, 1)) (m, 0)

/-- Moves a file. -/
def runMv (c : Call) (m : Machine) : Machine × Nat :=
  let (_, operands) := splitOptions c.arguments
  match operands.reverse with
  | target :: s :: more =>
    (s :: more).reverse.foldl (fun (m, status) source =>
      let target := destination c m source target
      match m.change (m.files.move c.cwd ⟨source⟩ ⟨target⟩) with
      | (m, none) => (m, status)
      | (m, some e) => (c.complainThat m "cannot stat" source e, 1)) (m, 0)
  | _ => complainOfOperands c m operands "file operand"

/-- Copies a file. -/
def runCp (c : Call) (m : Machine) : Machine × Nat :=
  let (_, operands) := splitOptions c.arguments
  match operands.reverse with
  | target :: s :: more =>
    (s :: more).reverse.foldl (fun (m, status) source =>
      match m.openFile c.cwd ⟨source⟩ with
      | (m, .error e) => (c.complainThat m "cannot stat" source e, 1)
      | (m, .ok content) =>
        let target := destination c m source target
        match m.change (m.files.write c.cwd ⟨target⟩ content) with
        | (m, none) =>
          if m.files.isExecutable c.cwd ⟨source⟩ then
            ((m.change (m.files.setExecutable c.cwd ⟨target⟩ true)).1, status)
          else (m, status)
        | (m, some e) => (c.complainThat m "cannot create regular file" target e, 1)) (m, 0)
  | _ => complainOfOperands c m operands "file operand"

/-- Applies an operation on the tree to each operand. -/
def changeEach (c : Call) (m : Machine) (what complaint : String)
    (operation : Files → Path → Except Errno Files) : Machine × Nat :=
  let (_, operands) := splitOptions c.arguments
  if operands = [] then complainOfOperands c m [] what
  else
    operands.foldl (fun (m, status) file =>
      match m.change (operation m.files ⟨file⟩) with
      | (m, none) => (m, status)
      | (m, some e) => (c.complainThat m complaint file e, 1)) (m, 0)

/-- Makes directories. -/
def runMkdir (c : Call) (m : Machine) : Machine × Nat :=
  let (options, _) := splitOptions c.arguments
  changeEach c m "operand" "cannot create directory" fun t p =>
    if hasOption 'p' options then t.makeDirectories c.cwd p else t.makeDirectory c.cwd p

/-- Makes a link. -/
def runLn (c : Call) (m : Machine) : Machine × Nat :=
  let (options, operands) := splitOptions c.arguments
  match operands with
  | [target, file] =>
    let m := if hasOption 'f' options then (m.change (m.files.removeFile c.cwd ⟨file⟩)).1 else m
    match m.change (m.files.makeLink c.cwd ⟨file⟩ ⟨target⟩) with
    | (m, none) => (m, 0)
    | (m, some e) => (c.complainThat m "failed to create symbolic link" file e, 1)
  | _ => complainOfOperands c m [] "file operand"

/-- Makes files that are missing. -/
def runTouch (c : Call) (m : Machine) : Machine × Nat :=
  changeEach c m "file operand" "cannot touch" fun t p => do
    let place ← t.findForWriting c.cwd p
    .ok (t.change place id)

/-- Gives files the permission to be executed, or takes it away. -/
def runChmod (c : Call) (m : Machine) : Machine × Nat :=
  match c.arguments with
  | mode :: files =>
    let isExecutable := mode.contains (byte 'x') && !mode.contains (byte '-')
      || (mode.all isDigitByte && mode.any fun b => b.toNat % 2 = 1)
    files.foldl (fun (m, status) file =>
      match m.change (m.files.setExecutable c.cwd ⟨file⟩ isExecutable) with
      | (m, none) => (m, status)
      | (m, some e) => (c.complainThat m "cannot access" file e, 1)) (m, 0)
  | [] => complainOfOperands c m [] "operand"

/-- Lists the names in directories, after the names of other files. -/
def runLs (c : Call) (m : Machine) : Machine × Nat :=
  let o := Options.ofArguments "" c.arguments
  let operands := if o.operands = [] then [ascii "."] else o.operands
  let operands := operands.mergeSort bytesLe
  let nodes := operands.map fun file => (file, m.files.stat c.cwd ⟨file⟩)
  let (m, status) := nodes.foldl (fun (m, status) (file, node) =>
    match node with
    | .error e => (c.complainThat m "cannot access" file e, 2)
    | .ok _ => (m, status)) (m, 0)
  let plain := nodes.flatMap fun (file, node) =>
    match node with
    | .ok .directory => if o.has 'd' then file ++ [newline] else []
    | .ok _ => file ++ [newline]
    | .error _ => []
  let listed := if o.has 'd' then [] else nodes.filterMap fun (file, node) =>
    match node, m.files.find c.cwd ⟨file⟩ true with
    | .ok .directory, .ok place =>
      let names := m.files.names place
      let names := if o.has 'a' then [Path.dot] :: [Path.dot, Path.dot] :: names
        else if o.has 'A' then names
        else names.filter fun n => n.head? ≠ some Path.dot
      let names := names.mergeSort bytesLe
      some ((if 1 < operands.length then file ++ ascii ":\n" else [])
        ++ ofLines (if o.has 'r' then names.reverse else names))
    | _, _ => none
  let parts := if plain = [] then listed else plain :: listed
  (c.say m ([newline].intercalate parts), status)

/-- What kind of thing stands in the tree. -/
def kindText : Node → String
  | .directory => "directory"
  | .pipe => "fifo"
  | .link _ => "symbolic link"
  | .file [] _ => "regular empty file"
  | .sink => "character special file"
  | _ => "regular file"

/-- How large a file is. -/
def sizeOf : Node → Nat
  | .file content _ => content.length
  | .link target => target.bytes.length
  | .directory => 4096
  | _ => 0

/-- What a format says of a file: its name, its size or its kind. -/
def describe (file : Bytes) (node : Node) : Bytes → Bytes
  | 37 :: b :: rest =>
    (if b = byte 'n' then file
      else if b = byte 's' then ascii (toString (sizeOf node))
      else if b = byte 'F' then ascii (kindText node)
      else [b]) ++ describe file node rest
  | b :: rest => b :: describe file node rest
  | [] => []

/-- Writes what a format says of files. -/
def runStat (c : Call) (m : Machine) : Machine × Nat :=
  let o := Options.ofArguments "c" c.arguments
  o.operands.foldl (fun (m, status) file =>
    match m.files.find c.cwd ⟨file⟩ (o.has 'L') with
    | .error e => (c.complainThat m "cannot statx" file e, 1)
    | .ok place =>
      match m.files.node? place with
      | none => (c.complainThat m "cannot statx" file .noEntry, 1)
      | some node =>
        let text := describe file node ((o.value? 'c').getD (ascii "%n"))
        (c.say m (text ++ [newline]), status)) (m, 0)

/-- Writes where a link leads, or the place of a file. -/
def runReadlink (c : Call) (m : Machine) : Machine × Nat :=
  let o := Options.ofArguments "" c.arguments
  let isWhole := o.has 'f' || o.has 'e' || o.has 'm' || c.name = ascii "realpath"
  o.operands.foldl (fun (m, status) file =>
    match m.files.find c.cwd ⟨file⟩ isWhole with
    | .error e =>
      if c.name = ascii "realpath" then (c.complainOf m file e, 1) else (m, 1)
    | .ok place =>
      if isWhole then (c.say m ((Files.pathOf place).bytes ++ [newline]), status)
      else
        match m.files.node? place with
        | some (.link target) => (c.say m (target.bytes ++ [newline]), status)
        | _ => (m, 1)) (m, 0)

/-! ### Names -/

/-- A path without the slashes at its end. -/
def stripSlashes (bs : Bytes) : Bytes := (Files.withoutEndSlashes ⟨bs⟩).bytes

/-- Writes the last component of a path, perhaps without a suffix. -/
def runBasename (c : Call) (m : Machine) : Machine × Nat :=
  match c.arguments with
  | path :: rest =>
    let stripped := stripSlashes path
    let base := match Text.cutLast Path.slash stripped with
      | some (_, base) => if base = [] then stripped else base
      | none => stripped
    let suffix := rest.head?.getD []
    let base :=
      if suffix ≠ [] ∧ suffix.reverse.isPrefixOf base.reverse ∧ suffix ≠ base then
        base.take (base.length - suffix.length)
      else base
    (c.say m (base ++ [newline]), 0)
  | [] => complainOfOperands c m [] "operand"

/-- Writes a path without its last component. -/
def runDirname (c : Call) (m : Machine) : Machine × Nat :=
  match c.arguments with
  | path :: _ =>
    let directory := match Text.cutLast Path.slash (stripSlashes path) with
      | some ([], _) => [Path.slash]
      | some (before, _) => stripSlashes before
      | none => ascii "."
    (c.say m (directory ++ [newline]), 0)
  | [] => complainOfOperands c m [] "operand"

/-- Runs a program on files, if it is one of these. -/
def runFileTool? (name : String) (c : Call) (m : Machine) : Option (Machine × Nat) :=
  match name with
  | "rm" => some (runRm c m)
  | "mv" => some (runMv c m)
  | "cp" => some (runCp c m)
  | "mkdir" => some (runMkdir c m)
  | "rmdir" => some (changeEach c m "operand" "failed to remove" fun t p =>
      t.removeDirectory c.cwd p)
  | "mkfifo" => some (changeEach c m "operand" "cannot create fifo" fun t p => t.makePipe c.cwd p)
  | "ln" => some (runLn c m)
  | "touch" => some (runTouch c m)
  | "chmod" => some (runChmod c m)
  | "ls" => some (runLs c m)
  | "stat" => some (runStat c m)
  | "readlink" => some (runReadlink c m)
  | "realpath" => some (runReadlink c m)
  | "basename" => some (runBasename c m)
  | "dirname" => some (runDirname c m)
  | "pwd" => some (c.say m ((Files.pathOf c.cwd).bytes ++ [newline]), 0)
  | _ => none

end Script

end LintBridge
