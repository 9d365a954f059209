import LintBridge.Executable.Resolver
import LintBridge.Settings.Store

/-!
# Locating the executable

When a run needs the executable and the configured one cannot be used, the user is asked. Several
runs may need it at the same time. They take turns at asking: a caller that had to wait while
another one asked does not ask again but takes what is remembered then.

A call is a sequence of stages. Each step of a call is one stage, and the steps of several calls may
come in any order. What a step needs to know of the world outside, such as whether a path is valid
or what the user has chosen, comes to it as an answer.

## Main definitions

* `Locator` — what the calls share.
* `LocateStage` — how far a call has come.
* `Answer` — what the world outside answers.
* `Prompt` — what the user is shown.
* `Locator.step?` — one step of a call.
-/

namespace LintBridge

/-- What the calls share. -/
structure Locator where
  settings : SettingsStore
  /-- The executable that was found to be valid last. -/
  cache : Option String
  /-- How many times the user has been asked and has answered. -/
  promptsShown : Nat
  /-- The caller whose turn it is to ask. -/
  asker : Option Nat

/-- How far a call has come. -/
inductive LocateStage where
  /-- The configured executable is about to be tried. -/
  | starting
  | trying (path : String)
  /-- It is not valid, and the number of prompts is about to be read. -/
  | missed
  /-- The caller waits for its turn; `seen` prompts had been shown before. -/
  | waiting (seen : Nat)
  /-- It is the caller's turn, and the number of prompts is about to be compared. -/
  | entered (seen : Nat)
  /-- The configured executable is about to be tried once more. -/
  | returning
  | retrying (path : String)
  /-- The warning is about to be shown. -/
  | warning
  /-- The warning is open. -/
  | warned
  /-- The file picker is open. -/
  | picking
  /-- The file that was picked is tried. -/
  | validating (path : String)
  /-- The file that was picked is about to be stored in the settings. -/
  | storing (path : String)
  /-- The user is about to be told that the file cannot be used. -/
  | regretting
  /-- The page of the linter is being opened. -/
  | browsing
  /-- The prompt is about to be counted. -/
  | counting (result : Option String)
  /-- The call has returned. -/
  | done (result : Option String)
  deriving DecidableEq, Repr

/-- What the world outside answers. -/
inductive Answer where
  /-- Nothing needs to be known. -/
  | nothing
  /-- Where the default name is found on the search path. -/
  | found (file : Option Path)
  /-- Whether a path is valid. -/
  | verdict (isValid : Bool)
  /-- The title of the action that the user has chosen. -/
  | choice (title : Option String)
  /-- The path that the user has picked, and whether it is a regular file. -/
  | picked (path : Option String) (isFile : Bool)
  /-- What came of a run of the linter. -/
  | outcome (o : Outcome)
  deriving DecidableEq, Repr

/-- What the user is shown on the way to an executable. -/
inductive Prompt where
  /-- A warning with two actions. -/
  | warning
  /-- A file picker. -/
  | picker
  /-- A message that nothing usable was picked. -/
  | regret
  /-- The page of the linter, outside the editor. -/
  | page
  deriving DecidableEq, Repr

namespace Prompt

/-- The action that opens the page of the linter. -/
def downloadAction : String := "Download"

/-- The action that opens a file picker. -/
def findAction : String := "Find the file"

/-- What the file picker says on its button. -/
def pickLabel : String := "Use for linting"

/-- The text of the warning. -/
def warningText : String :=
  "Protolint executable was not detected. Find the unpacked executable if already downloaded."

/-- The text of the message that nothing usable was picked. -/
def regretText : String :=
  "A valid linter executable wasn't found. Try fixing it in the settings."

end Prompt

namespace Locator

/-- A locator in the beginning. -/
def ofSettings (settings : SettingsStore) : Locator := ⟨settings, none, 0, none⟩

/-- The path that is tried for the current settings. -/
def probePath (l : Locator) (root : Option Path) (found : Option Path) : String :=
  Executable.probePath found l.settings.current.path root

/-- The locator after a path was tried. -/
def remember (l : Locator) (path : String) (isValid : Bool) : Locator :=
  { l with cache := Executable.remembered path isValid }

/-- The locator after the turn to ask has ended. -/
def release (l : Locator) : Locator := { l with asker := none }

/-- One step of a call by `caller` for the first workspace folder `root`: the locator and the stage
after it, and what the user is shown. None if the step has to wait, or if the answer does not fit.
-/
def step? (l : Locator) (caller : Nat) (root : Option Path) :
    LocateStage → Answer → Option (Locator × LocateStage × List Prompt)
  | .starting, .found file => some (l, .trying (l.probePath root file), [])
  | .trying path, .verdict isValid =>
    some (l.remember path isValid, if isValid then .done (some path) else .missed, [])
  | .missed, .nothing => some (l, .waiting l.promptsShown, [])
  | .waiting seen, .nothing =>
    if l.asker = none then some ({ l with asker := some caller }, .entered seen, []) else none
  | .entered seen, .nothing =>
    if l.promptsShown = seen then some (l, .returning, [])
    else some (l.release, .done l.cache, [])
  | .returning, .found file => some (l, .retrying (l.probePath root file), [])
  | .retrying path, .verdict isValid =>
    if isValid then some ((l.remember path true).release, .done (some path), [])
    else some (l.remember path false, .warning, [])
  | .warning, .nothing => some (l, .warned, [.warning])
  | .warned, .choice title =>
    if title = some Prompt.findAction then some (l, .picking, [.picker])
    else if title = some Prompt.downloadAction then some (l, .browsing, [.page])
    else some (l, .counting none, [])
  | .picking, .picked path isFile =>
    match path, isFile with
    | some p, true => some (l, .validating p, [])
    | _, _ => some (l, .regretting, [])
  | .validating path, .verdict isValid =>
    some (l.remember path isValid, if isValid then .storing path else .regretting, [])
  | .storing path, .nothing =>
    some ({ l with settings := l.settings.withPath path }, .counting (some path), [])
  | .regretting, .nothing => some (l, .counting none, [.regret])
  | .browsing, .nothing => some (l, .counting none, [])
  | .counting result, .nothing =>
    some ({ l with promptsShown := l.promptsShown + 1 }.release, .done result, [])
  | _, _ => none

end Locator

end LintBridge
