import LintBridge.CommandLine.Switch

/-!
# How a command is used

A usage lists what words a command takes. Its help is laid out from it: in each section the labels
stand in one column and what is told of them in another.

## Main definitions

* `Operand`, `Usage` — what words a command takes.
* `Usage.help` — the help on a command.
-/

namespace LintBridge

/-- The words of a command that are no switches. There may be any number of them. -/
structure Operand where
  label : String
  about : String
  /-- Whether there has to be one. -/
  isRequired : Bool
  deriving DecidableEq, Repr

/-- What words a command takes. -/
structure Usage where
  /-- The command, with what stands before it. -/
  name : String
  about : String
  /-- The commands below this one, with what is told of them. -/
  commands : List (String × String)
  operand : Option Operand
  switches : List Switch
  deriving DecidableEq, Repr

/-- How an operand is shown. -/
def Operand.shown (o : Operand) : String :=
  if o.isRequired then "<" ++ o.label ++ ">..." else "[" ++ o.label ++ "]..."

namespace Switch

/-- How a switch is shown. -/
def shown (s : Switch) : String :=
  let letter := match s.letter with
    | some c => "-" ++ c.toString ++ ", "
    | none => "    "
  let value := match s.kind with
    | .value label _ _ => " <" ++ label ++ ">"
    | _ => ""
  letter ++ "--" ++ s.name ++ value

/-- What is told of a switch. -/
def told (s : Switch) : String :=
  match s.kind with
  | .value _ kind default =>
    let default := match default with
      | some d => " [default: " ++ d ++ "]"
      | none => ""
    let choices := match kind with
      | .word choices => " [possible values: " ++ ", ".intercalate choices ++ "]"
      | _ => ""
    s.about ++ default ++ choices
  | _ => s.about

end Switch

namespace Usage

/-- The line that shows how the command is called. -/
def line (u : Usage) : String :=
  let switches := if u.switches = [] then "" else " [OPTIONS]"
  let operand := match u.operand with
    | some o => " " ++ o.shown
    | none => ""
  let command := if u.commands = [] then "" else " <COMMAND>"
  "Usage: " ++ u.name ++ switches ++ operand ++ command ++ "\n"

/-- A text filled up with blanks to a width. -/
def fill (width : Nat) (s : String) : String :=
  s ++ String.ofList (List.replicate (width - s.length) ' ')

/-- The rows of a section, in two columns. -/
def rows (items : List (String × String)) : String :=
  let width := (items.map fun (label, _) => label.length).foldl max 0
  String.join (items.map fun (label, about) => "  " ++ fill width label ++ "  " ++ about ++ "\n")

/-- A section, unless it would be empty. -/
def sectionOf (title : String) (items : List (String × String)) : String :=
  if items = [] then "" else "\n" ++ title ++ ":\n" ++ rows items

/-- The help on the command. -/
def help (u : Usage) : String :=
  u.about ++ "\n\n" ++ u.line ++ sectionOf "Commands" u.commands ++
    sectionOf "Arguments" (u.operand.toList.map fun o => (o.shown, o.about)) ++
    sectionOf "Options" (u.switches.map fun s => (s.shown, s.told))

end Usage

end LintBridge
