import LintBridge.Hub.Rehearsal
import LintBridge.Server.Outgoing
import LintBridge.Server.Service

/-!
# Sessions

A session is one editor that talks to the server. The messages of the editor are taken one after
another; what they set off at the hub goes on between them.

## Main definitions

* `Session` — the service, the hub and what was sent.
* `Session.receive`, `Session.listen` — take a message.
* `Session.settle`, `Session.elapse` — let the hub go on.
* `Session.awaitMethod` — lets the hub go on until something was sent.
-/

namespace LintBridge

/-- A session. -/
structure Session where
  phase : Phase
  rehearsal : Rehearsal
  /-- What was sent, in order. -/
  sent : List Outgoing

/-- What a message is answered with. -/
inductive Response where
  | reply (r : Reply)
  | nothing
  /-- The editor has left, and no message is taken. -/
  | gone
  /-- The message is neither a request nor a notification. -/
  | unreadable

namespace Session

/-- A session in the beginning. -/
def start (rehearsal : Rehearsal) : Session := ⟨.fresh, rehearsal, []⟩

/-- The session with another hub. -/
def withHub (s : Session) (hub : Hub) : Session :=
  { s with rehearsal := { s.rehearsal with hub := hub } }

/-- The editor connects: its folders are those of the workspace, and its options are settings. -/
def connect (s : Session) (c : Connection) : Session :=
  let hub := { s.rehearsal.hub with folders := Workspace.initialFolders c.folders c.root }
  s.withHub (match c.options with
    | some options => hub.updateClient options
    | none => hub)

/-- Does what is to be done because of a message. -/
def perform (s : Session) : Deed → Session
  | .connect c => s.connect c
  | .welcome => { s with sent := s.sent ++ [.welcome] }
  | .event e => { s with rehearsal := s.rehearsal.take e }

/-- The session after the editor has left: it answers nothing any more. -/
def leave (s : Session) : Session :=
  { s with rehearsal := { s.rehearsal with
    editor := { s.rehearsal.editor with choices := [], picks := [] } } }

/-- Takes a message. -/
def receive (s : Session) (j : Json) : Session × Response :=
  match Message.read? j with
  | none => (s, .unreadable)
  | some m =>
    if s.phase = .left then (s, .gone)
    else
      let reaction := Service.react s.phase m
      let s := { s with phase := reaction.phase }
      let s := if s.phase = .left then s.leave else s
      let s := match reaction.deed with
        | some deed => s.perform deed
        | none => s
      (s, match reaction.reply with
        | some reply => .reply reply
        | none => .nothing)

/-- Takes what comes from an editor that sends answers on the same way as messages. What is neither
is refused. -/
def listen (s : Session) (j : Json) : Session × Option Reply :=
  if Message.isAnswer j then (s, none)
  else
    match s.receive j with
    | (s, .reply r) => (s, some r)
    | (s, .unreadable) => (s, some (.toNoMessage .invalidRequest))
    | (s, _) => (s, none)

/-- Takes several messages. -/
def receiveAll (s : Session) : List Json → Session × List Response
  | [] => (s, [])
  | j :: js =>
    let (s, response) := s.receive j
    let (s, responses) := s.receiveAll js
    (s, response :: responses)

/-- Sends what was seen of the hub. To an editor that has left nothing is sent. -/
def flush (s : Session) : Session :=
  let outputs := s.rehearsal.seen.reverse.filterMap Outgoing.ofOutput?
  { s with
    rehearsal := { s.rehearsal with seen := [] }
    sent := if s.phase = .left then s.sent else s.sent ++ outputs }

/-- Lets all tasks end. -/
def settle (s : Session) : Session := { s with rehearsal := s.rehearsal.settle }.flush

/-- Lets the delays of all timers end. -/
def elapse (s : Session) : Session := { s with rehearsal := s.rehearsal.elapseAll }

/-- Whether the timers end before the next answer comes. -/
def timersAreNext (r : Rehearsal) : Bool :=
  !r.hub.timers.isEmpty &&
    r.nextPending?.all fun p => r.now + Timer.delay * 1000 < p.time

/-- Lets the hub go on by one step, if it can. -/
def advance? (r : Rehearsal) : Option Rehearsal :=
  match r.advanceFirst? r.hub.tasks with
  | some r => some r
  | none => if timersAreNext r then some r.elapseAll else r.nextPending?.map r.deliver

/-- Lets the hub go on until something was sent by a method, or nothing more happens. -/
def awaitWithin (method : String) : (fuel : Nat) → Session → Session
  | 0, s => s
  | fuel + 1, s =>
    if s.sent.any fun o => o.method = method then s
    else
      match advance? s.rehearsal with
      | some r => awaitWithin method fuel { s with rehearsal := r }.flush
      | none => s

/-- Lets the hub go on until something was sent by a method. -/
def awaitMethod (s : Session) (method : String) : Session :=
  awaitWithin method (s.rehearsal.steps + 100 * s.rehearsal.hub.timers.length) s.flush

end Session

end LintBridge
