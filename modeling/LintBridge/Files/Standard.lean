import LintBridge.Files.Tree

/-!
# The standard tree

The tree of a system on which nothing but the usual programs is installed.

## Main definitions

* `Files.standard` — the tree.
* `Files.standardSearchPath` — the directories in which programs are looked for, if nothing else is
  said.
* `Files.temporary` — the directory for temporary files.
-/

namespace LintBridge

namespace Files

/-- The programs of the system, by name. -/
def standardPrograms : List String :=
  ["sh", "dash", "env", "cat", "cp", "mv", "rm", "mkdir", "rmdir", "mkfifo", "ln", "touch", "chmod",
    "head", "tail", "wc", "grep", "sort", "uniq", "tac", "rev", "nl", "cut", "tr", "tee", "seq",
    "cmp", "sed", "expr", "sleep", "timeout", "xargs", "basename", "dirname", "readlink",
    "realpath", "stat", "pwd", "echo", "printf", "true", "false", "test", "[", "kill", "ls", "id",
    "whoami", "uname", "which", "yes"]

/-- The place that a list of names denotes. -/
def placeOf (names : List String) : Place := names.map Utf8.encode

/-- The tree. -/
def standard : Files :=
  let directories := [["tmp"], ["dev"], ["etc"], ["home"], ["root"], ["usr"], ["usr", "bin"],
    ["usr", "local"], ["usr", "local", "bin"]].map fun names => (placeOf names, Node.directory)
  let links := [(placeOf ["bin"], Node.link (.ofString "usr/bin")),
    (placeOf ["dev", "null"], Node.sink)]
  let programs := standardPrograms.map fun name =>
    (placeOf ["usr", "bin", name], Node.program name)
  ⟨directories ++ links ++ programs⟩

/-- The directories in which programs are looked for. -/
def standardSearchPath : Bytes :=
  Utf8.encode "/usr/local/sbin:/usr/local/bin:/usr/sbin:/usr/bin:/sbin:/bin"

/-- The directory for temporary files. -/
def temporary : Path := .ofString "/tmp"

end Files

end LintBridge
