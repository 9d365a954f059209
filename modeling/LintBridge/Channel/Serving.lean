import LintBridge.Text.Utf8

/-!
# Serving a buffer

A buffer is served through a named pipe to one reader after another. The server looks for a reader
from time to time, writes the text, closes its end, and gives the reader a moment to leave before it
looks again. The system carries at most 64 KiB that were written and not yet read; a reader meets
the end of the file when nothing is left and the server's end is closed.

The steps here may come in any order, so a reader may take any time over each of them: `step?` says
what each step does, and when it is possible at all. `promptReading` is what a reader receives that
never makes the server wait.

## Main definitions

* `Channel.Exchange` — the server, the pipe and the readers.
* `Channel.Exchange.step?` — what a step does.
* `Channel.promptReading` — what a prompt reader receives.
-/

namespace LintBridge

namespace Channel

/-- What the server is doing. -/
inductive Serving where
  /-- It looks for a reader from time to time. -/
  | waiting
  /-- It has the pipe open and has this much left to write. -/
  | writing (rest : Bytes)
  /-- It has closed the pipe and gives the reader time to leave. -/
  | settling
  deriving DecidableEq, Repr

/-- A reader of the pipe. -/
structure Reader where
  /-- What it has read. -/
  received : Bytes
  /-- Whether the server has had the pipe open since the reader came. Until then it only waits. -/
  isConnected : Bool
  /-- Whether it has met the end of the file. -/
  sawEnd : Bool
  deriving DecidableEq, Repr

/-- The server, the pipe and the readers. -/
structure Exchange where
  /-- What is served. -/
  text : Bytes
  server : Serving
  /-- What was written and not yet read. -/
  buffer : Bytes
  /-- The reader that has the pipe open. -/
  reader : Option Reader
  /-- The readers that have left, the last one first. -/
  departed : List Reader
  deriving DecidableEq, Repr

/-- A step of the server or of a reader. -/
inductive ExchangeStep where
  /-- The server looks for a reader. -/
  | poll
  /-- The server writes at most so many bytes, or closes the pipe if nothing is left. -/
  | write (count : Nat)
  /-- The time to leave is over. -/
  | settle
  /-- A reader opens the pipe. -/
  | arrive
  /-- The reader asks for at most so many bytes. -/
  | read (count : Nat)
  /-- The reader closes the pipe. -/
  | leave
  deriving DecidableEq, Repr

/-- How much the pipe carries. -/
def pipeCapacity : Nat := 65536

namespace Exchange

/-- The exchange at the beginning. -/
def start (text : Bytes) : Exchange := ⟨text, .waiting, [], none, []⟩

/-- Whether the server has the pipe open. -/
def isWriting (x : Exchange) : Bool :=
  match x.server with
  | .writing _ => true
  | _ => false

/-- What a step does; `none` if it is not possible now. -/
def step? (x : Exchange) : ExchangeStep → Option Exchange
  | .poll =>
    match x.server, x.reader with
    | .waiting, some r =>
      some { x with server := .writing x.text, reader := some { r with isConnected := true } }
    | .waiting, none => some x
    | _, _ => none
  | .write count =>
    match x.server, x.reader with
    | .writing [], _ =>
      some { x with server := .settling, buffer := if x.reader.isNone then [] else x.buffer }
    | .writing _, none => some { x with server := .settling, buffer := [] }
    | .writing rest, some _ =>
      let count := min count (pipeCapacity - x.buffer.length)
      some { x with server := .writing (rest.drop count), buffer := x.buffer ++ rest.take count }
    | _, _ => none
  | .settle =>
    match x.server with
    | .settling => some { x with server := .waiting }
    | _ => none
  | .arrive =>
    match x.reader with
    | none => some { x with reader := some ⟨[], x.isWriting, false⟩ }
    | some _ => none
  | .read count =>
    match x.reader with
    | some r =>
      if !r.isConnected then none
      else if x.buffer ≠ [] then
        some { x with
          buffer := x.buffer.drop count
          reader := some { r with received := r.received ++ x.buffer.take count } }
      else if x.isWriting then none
      else some { x with reader := some { r with sawEnd := true } }
    | none => none
  | .leave =>
    match x.reader with
    | some r =>
      some { x with
        reader := none
        departed := r :: x.departed
        buffer := if x.isWriting then x.buffer else [] }
    | none => none

/-- The exchange after some steps, those that are not possible left out. -/
def run (x : Exchange) (steps : List ExchangeStep) : Exchange :=
  steps.foldl (fun x step => (x.step? step).getD x) x

/-- Lets the server write and the reader read in turn until the reader meets the end. -/
def drain : (fuel : Nat) → Exchange → Exchange
  | 0, x => x
  | fuel + 1, x =>
    if (x.reader.map Reader.sawEnd).getD true then x
    else drain fuel (x.run [.write pipeCapacity, .read pipeCapacity])

/-- A reader comes, reads everything without delay, and leaves. -/
def serveOne (x : Exchange) : Exchange :=
  (drain (x.text.length + 2) (x.run [.arrive, .poll])).run [.leave, .settle]

end Exchange

/-- What a reader receives that never makes the server wait. -/
def promptReading (text : Bytes) : Bytes :=
  (((Exchange.start text).serveOne.departed.head?).map Reader.received).getD []

end Channel

end LintBridge
