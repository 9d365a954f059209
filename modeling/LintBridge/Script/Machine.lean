import LintBridge.Channel.Lifecycle
import LintBridge.Channel.Serving
import LintBridge.Files.Standard

/-!
# The machine on which programs run

A machine has a tree of files, a clock, and streams on which programs write and from which they
read. Programs take time: a little for each command, more for each program that is started. When the
clock reaches the deadline, everything stops. One pipe of the tree may be served; its server looks
at the pipe every few milliseconds and fails if it finds something else there. A program that reads
a file from its beginning to its end takes no time over it, but one may also keep a pipe open and
read from it later, and then the server goes on in between.

## Main definitions

* `Tap` — a stream that leads to the served pipe.
* `Machine` — the machine.
* `Machine.advance` — lets time pass.
* `Machine.openFile` — what a program reads from a file.
* `Machine.openStream` — a stream on which a program reads from a file later.
* `Machine.write` — writes to a descriptor.
-/

namespace LintBridge

/-- The server of a pipe. -/
structure PipeServer where
  /-- The address of the pipe. -/
  address : Path
  /-- The directory from which the address is taken. -/
  cwd : Place
  /-- What is served. -/
  text : Bytes
  /-- When the server looks for a reader next, in microseconds. -/
  nextLook : Nat
  /-- Why the server has given up. -/
  failure : Option FileError
  deriving Repr

/-- A stream that leads to the served pipe: its reader keeps the pipe open. -/
structure Tap where
  stream : Nat
  exchange : Channel.Exchange
  /-- When the time is over that the reader has to leave, in microseconds. -/
  due : Nat

/-- Where a descriptor leads. -/
inductive Descriptor where
  | input (stream : Nat)
  | output (stream : Nat)
  /-- What is written goes to the end of the file. -/
  | file (place : Place)
  | sink
  deriving DecidableEq, Repr

/-- The machine on which programs run. -/
structure Machine where
  files : Files
  /-- The time in microseconds. -/
  clock : Nat
  /-- When everything stops. -/
  deadline : Option Nat
  /-- Whether a program waits for something that never comes. -/
  isStuck : Bool
  server : Option PipeServer
  /-- The stream that leads to the served pipe. -/
  tap : Option Tap
  /-- What was written on the streams, the last part first. -/
  outputs : List (Nat × List Bytes)
  /-- What is left to read on the streams. -/
  inputs : List (Nat × Bytes)
  nextStream : Nat
  nextProcess : Nat
  /-- How many channels there have been. -/
  nextChannel : Nat

namespace PipeServer

/-- How often the server looks for a reader, in microseconds. -/
def lookInterval : Nat := 5000

/-- How long a reader has to leave, in microseconds. -/
def settleTime : Nat := 20000

/-- The server at the time `now`, if the tree has been the same since it last looked. -/
def lookUntil (s : PipeServer) (t : Files) (now : Nat) : PipeServer :=
  if s.failure.isSome ∨ now < s.nextLook then s
  else
    match Channel.check t s.cwd s.address with
    | .error e => { s with failure := some e }
    | .ok () =>
      { s with nextLook := now + lookInterval - (now - s.nextLook) % lookInterval }

end PipeServer

namespace Tap

/-- The server writes what the pipe carries, and closes the pipe if that was all. -/
def offer : List Channel.ExchangeStep :=
  [.write Channel.pipeCapacity, .write Channel.pipeCapacity]

/-- A reader that came at the time `now` and for which the server has opened the pipe at once. -/
def start (stream : Nat) (text : Bytes) (now : Nat) : Tap :=
  ⟨stream, (Channel.Exchange.start text).run (.arrive :: .poll :: offer),
    now + PipeServer.settleTime⟩

/-- The server offers the pipe again whenever the time to leave is over. While the pipe is full, it
waits. -/
def catchUp (now : Nat) : (offers : Nat) → Tap → Tap
  | 0, t => t
  | offers + 1, t =>
    if t.exchange.server = .settling ∧ t.due ≤ now then
      catchUp now offers { t with
        exchange := t.exchange.run (.settle :: .poll :: offer)
        due := t.due + PipeServer.settleTime }
    else t

/-- Reads until enough was read or the end of the file is met. What is `wanted` of the bytes in the
pipe is taken from it, and the server fills it up again. -/
def pull (wanted : Bytes → Nat) (isEnough : Bytes → Bool) :
    (fuel : Nat) → Channel.Exchange → Channel.Exchange
  | 0, x => x
  | fuel + 1, x =>
    if x.reader.any fun r => r.sawEnd || isEnough r.received then x
    else pull wanted isEnough fuel (x.run (.read (wanted x.buffer) :: offer))

/-- What the reader receives at the time `now`, and the tap after that. -/
def receive (t : Tap) (now : Nat) (wanted : Bytes → Nat) (isEnough : Bytes → Bool) : Tap × Bytes :=
  let t := t.catchUp now ((now - t.due) / PipeServer.settleTime + 1)
  let before := t.exchange
  let fresh := { before with reader := some ⟨[], true, false⟩ }
  let after := pull wanted isEnough (before.text.length + 3) fresh
  let due := if before.server = .settling then t.due else now + PipeServer.settleTime
  ({ t with exchange := after, due := due }, (after.reader.map Channel.Reader.received).getD [])

/-- All that the reader receives until the end of the file. -/
def receiveAll (t : Tap) (now : Nat) : Tap × Bytes :=
  t.receive now (fun _ => Channel.pipeCapacity) fun _ => false

/-- What the reader receives until the end of a line. -/
def receiveLine (t : Tap) (now : Nat) : Tap × Bytes :=
  t.receive now (fun buffer => (buffer.takeWhile (· ≠ 10)).length + 1) fun received =>
    received.getLast? = some 10

end Tap

namespace Machine

/-- How long a command takes that needs no program, in microseconds. -/
def commandTime : Nat := 2

/-- How long it takes to start and to end a program, in microseconds. -/
def programTime : Nat := 1000

/-- A machine with the given files. -/
def ofFiles (t : Files) (clock : Nat) : Machine :=
  ⟨t, clock, none, false, none, none, [], [], 0, 1000, 0⟩

/-- Whether everything has stopped. -/
def isOver (m : Machine) : Bool :=
  m.isStuck || (match m.deadline with
    | some d => d ≤ m.clock
    | none => false)

/-- Lets time pass, but not beyond the deadline. -/
def advance (m : Machine) (time : Nat) : Machine :=
  let now := match m.deadline with
    | some d => min d (m.clock + time)
    | none => m.clock + time
  let now := max m.clock now
  { m with clock := now, server := m.server.map fun s => s.lookUntil m.files now }

/-- Waits for something that never comes. -/
def getStuck (m : Machine) : Machine :=
  match m.deadline with
  | some d => m.advance (d - m.clock)
  | none => { m with isStuck := true }

/-! ### Streams -/

/-- A new stream to write on. -/
def newOutput (m : Machine) : Machine × Nat :=
  ({ m with outputs := (m.nextStream, []) :: m.outputs, nextStream := m.nextStream + 1 },
    m.nextStream)

/-- A new stream with something to read. -/
def newInput (m : Machine) (content : Bytes) : Machine × Nat :=
  ({ m with inputs := (m.nextStream, content) :: m.inputs, nextStream := m.nextStream + 1 },
    m.nextStream)

/-- Changes the entry of a key in a list. -/
def adjust {α : Type} (key : Nat) (f : α → α) : List (Nat × α) → List (Nat × α)
  | [] => []
  | (k, a) :: rest => if k = key then (k, f a) :: rest else (k, a) :: adjust key f rest

/-- What was written on a stream. -/
def written (m : Machine) (stream : Nat) : Bytes :=
  ((m.outputs.lookup stream).getD []).reverse.flatten

/-- What is left to read on a stream. -/
def unread (m : Machine) (stream : Nat) : Bytes := (m.inputs.lookup stream).getD []

/-- Leaves a stream with so much to read. -/
def setUnread (m : Machine) (stream : Nat) (rest : Bytes) : Machine :=
  { m with inputs := adjust stream (fun _ => rest) m.inputs }

/-- Lets the reader of a stream receive something, if the stream leads to the served pipe. -/
def receive (m : Machine) (stream : Nat) (f : Tap → Nat → Tap × Bytes) : Machine :=
  match m.tap with
  | some tap =>
    if tap.stream = stream then
      let (tap, bytes) := f tap m.clock
      { m with tap := some tap, inputs := adjust stream (· ++ bytes) m.inputs }
    else m
  | none => m

/-- Writes to a descriptor. -/
def write (m : Machine) (d : Option Descriptor) (bytes : Bytes) : Machine :=
  match d with
  | some (.output stream) => { m with outputs := adjust stream (bytes :: ·) m.outputs }
  | some (.file place) => { m with files := m.files.change place (· ++ bytes) }
  | _ => m

/-- Reads all that is left on a descriptor. -/
def readAll (m : Machine) (d : Option Descriptor) : Machine × Bytes :=
  match d with
  | some (.input stream) =>
    let m := m.receive stream Tap.receiveAll
    (m.setUnread stream [], m.unread stream)
  | _ => (m, [])

/-- Reads a line from a descriptor, and tells whether it was ended. -/
def readLine (m : Machine) (d : Option Descriptor) : Machine × Bytes × Bool :=
  match d with
  | some (.input stream) =>
    let m := m.receive stream Tap.receiveLine
    let rest := m.unread stream
    match rest.dropWhile (· ≠ 10) with
    | _ :: after => (m.setUnread stream after, rest.takeWhile (· ≠ 10), true)
    | [] => (m.setUnread stream [], rest, false)
  | _ => (m, [], false)

/-! ### Files -/

/-- Whether a server stands by at the pipe at `place`. -/
def serves (m : Machine) (s : PipeServer) (place : Place) : Bool :=
  s.failure.isNone && (match m.files.find s.cwd s.address true with
    | .ok p => p = place
    | .error _ => false)

/-- What a program reads from a served pipe. -/
def readPipe (m : Machine) (place : Place) : Machine × Bytes :=
  match m.server with
  | some s =>
    if m.serves s place then
      let m := m.advance (s.nextLook - m.clock)
      ({ m with server := m.server.map fun s =>
          { s with nextLook := m.clock + PipeServer.settleTime } },
        Channel.promptReading s.text)
    else (m.getStuck, [])
  | none => (m.getStuck, [])

/-- What a program reads from a file, or why it cannot. -/
def openFile (m : Machine) (cwd : Place) (p : Path) : Machine × Except Errno Bytes :=
  match m.files.find cwd p true with
  | .error e => (m, .error e)
  | .ok place =>
    match m.files.node? place with
    | none => (m, .error .noEntry)
    | some .directory => (m, .error .isDirectory)
    | some .pipe =>
      let (m, content) := m.readPipe place
      (m, .ok content)
    | some (.file content _) => (m, .ok content)
    | some _ => (m, .ok [])

/-- The server of the pipe to which a path name leads, if it is served. -/
def serverAt? (m : Machine) (cwd : Place) (p : Path) : Option PipeServer :=
  match m.files.find cwd p true with
  | .error _ => none
  | .ok place =>
    if m.files.node? place = some .pipe then m.server.filter fun s => m.serves s place else none

/-- A stream on which a program reads from a file later, or why there is none. Of a served pipe it
is only waited for the server here. -/
def openStream (m : Machine) (cwd : Place) (p : Path) : Machine × Except Errno Nat :=
  match m.serverAt? cwd p with
  | some s =>
    let (m, stream) := (m.advance (s.nextLook - m.clock)).newInput []
    let look := m.clock + PipeServer.settleTime
    ({ m with
      tap := some (.start stream s.text m.clock)
      server := m.server.map fun s => { s with nextLook := look } }, .ok stream)
  | none =>
    match m.openFile cwd p with
    | (m, .ok content) =>
      let (m, stream) := m.newInput content
      (m, .ok stream)
    | (m, .error e) => (m, .error e)

/-- Changes the tree by an operation, or tells why it failed. -/
def change (m : Machine) (result : Except Errno Files) : Machine × Option Errno :=
  match result with
  | .ok t => ({ m with files := t }, none)
  | .error e => (m, some e)

end Machine

end LintBridge
