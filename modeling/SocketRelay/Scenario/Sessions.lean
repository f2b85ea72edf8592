import SocketRelay.Scenario.Stage
import SocketRelay.Session.Basic

/-!
# Scenarios of sessions

The sessions of one relay, each with its mailbox, and what each writes. A relay is polled by the
scenario's own steps or by a thread of its own. The thread never lets a failing poll stop it, and it
polls as soon as there is something to report; so between two steps nothing is left to deliver.
-/
namespace SocketRelay.Scenario.Sessions
open Loopback
open Protocol (Event Request)

inductive Operation where
  /-- A frame from the client. -/
  | frame (bytes : Bytes)
  /-- A request that is carried out without a frame. -/
  | dispatch (request : Request)
  | opened
  | close
  /-- Let go of the session. -/
  | letGo
  | describe
  /-- Poll, and leave the notes where they are. -/
  | poll (wanted : Nat)
  /-- Handle the notes in the mailbox. -/
  | drain
  /-- Poll and handle until nothing moves. -/
  | pump
  | expire (now : Nat)
  /-- Handle a note that is not in the mailbox. -/
  | ready (note : Readiness)

/-- A step: something about the session at an index, or something that a peer does. -/
inductive Step where
  | session (index : Nat) (operation : Operation)
  | peer (step : PeerStep)

inductive Answer where
  | nothing
  | count (n : Nat)
  | result (result : Except RelayError Unit)
  | text (text : String)

/-- What a session writes: frames, in order, and notices. -/
structure Written where
  frames : List Bytes := []
  notices : List Notice := []

inductive Report where
  /-- Answer, events written, notices, the session afterwards unless it is gone, and the number of
  registrations. -/
  | session (answer : Answer) (events : List Event) (notices : List Notice)
    (session : Option Session) (registered : Nat)
  | peer (answer : PeerAnswer)

structure Own where
  sessions : List Session
  /-- Does the relay poll by itself? -/
  threaded : Bool

open Play

def sessionAt (index : Nat) : Play Own Session := do
  present (.session index) (← own).sessions[index]?

def setSession (index : Nat) (s : Session) : Play Own Unit := do
  let o ← own
  setOwn { o with sessions := o.sessions.set index s }

def settle (index : Nat) (reply : Session.Reply) : Play Own Written := do
  setSession index reply.session
  return { frames := reply.frames, notices := reply.notices }

/-- The polls of a relay's own thread: until a wait has nothing to report. -/
def pollAlone : (rounds : Nat) → Action Network Unit
  | 0 => return
  | rounds + 1 => do
    let failing := (← get).system.faults.remaining .epollWait
    match ← Reactor.pollOnce with
    | .ok 0 => if failing = 0 then return else pollAlone rounds
    | _ => pollAlone rounds

/-- One poll, by the scenario or by the relay itself. Returns the number delivered where the
scenario knows it. -/
def pollRound : Play Own Nat := do
  if (← own).threaded then
    act (pollAlone manyRounds)
    return 0
  else poll

/-- Handle the notes of a session. Returns their number. -/
def drain (index : Nat) : Play Own (Nat × Written) := do
  let (reply, handled) ← act (← sessionAt index).drainMailbox
  return (handled, ← settle index reply)

/-- Rounds of polling and handling until nothing moves. Returns what was written, the latest round
first. -/
def pump (index : Nat) : (rounds : Nat) → List Written → Play Own (List Written)
  | 0, written => return written
  | rounds + 1, written => do
    let delivered ← pollRound
    let (handled, more) ← drain index
    if delivered + handled = 0 then return more :: written
    pump index rounds (more :: written)

/-- All that was written, given piece by piece. -/
def Written.concat (pieces : List Written) : Written where
  frames := pieces.flatMap Written.frames
  notices := pieces.flatMap Written.notices

def eventsOf (frames : List Bytes) : List Event :=
  frames.filterMap fun f => (Event.decode f).toOption

/-- Perform an operation. Returns what it shows, the events it returned, and what was written. -/
def perform (index : Nat) (operation : Operation) : Play Own (Answer × List Event × Written) := do
  let s ← sessionAt index
  match operation with
  | .frame bytes => return (.nothing, [], ← settle index (← act (s.onMessage bytes)))
  | .dispatch request =>
    let done ← act (s.dispatch request)
    setSession index done.session
    return (.result done.result, done.events, { notices := done.notices })
  | .opened => return (.nothing, [], ← settle index s.onOpen)
  | .close => return (.nothing, [], ← settle index (← act (s.close .ofRows)))
  | .letGo => return (.nothing, [], ← settle index (← act (s.release .ofRows)))
  | .describe => return (.text s.text, [], {})
  | .poll wanted => return (.count (← pollUntil wanted manyRounds 0), [], {})
  | .drain =>
    let (handled, written) ← drain index
    return (.count handled, [], written)
  | .pump =>
    let written ← pump index manyRounds []
    return (.nothing, [], Written.concat written.reverse)
  | .expire now =>
    let (reply, expired) ← act (s.expireStalledConnects now .ofRows)
    return (.count expired, [], ← settle index reply)
  | .ready note => return (.nothing, [], ← settle index (← act (s.onReady note)))

/-- Does the operation let go of the session? -/
def Operation.isLetGo : Operation → Bool
  | letGo => true
  | _ => false

def reportStep : Step → Play Own Report
  | .peer step => return .peer (← step.play)
  | .session index operation => do
    let (answer, returned, written) ← perform index operation
    let events := bySocket (eventsOf written.frames ++ returned)
    let session ← sessionAt index
    return .session answer events written.notices (if operation.isLetGo then none else some session)
      (← registered)

/-- Take a step and report; then a relay with its own thread polls. -/
def report (step : Step) : Play Own Report := do
  let r ← reportStep step
  if (← own).threaded then act (pollAlone manyRounds)
  return r

def releaseAll : List Session → Play Own Unit
  | [] => return
  | s :: rest => do
    let _ ← act (s.release .ofRows)
    releaseAll rest

/-- What a scenario shows: its steps, and the number of registrations after all sessions were let
go of. -/
structure Reports where
  steps : List Report
  registeredAtEnd : Nat

/-- The sessions of a relay at the start. -/
def freshSessions (settings : Settings) (count : Nat) : List Session :=
  ((SessionIds.take {} count).zipIdx).map fun (id, position) =>
    { id, mailbox := position, writer := position, settings }

def run (setup : Setup) (settings : Settings) (count : Nat) (threaded : Bool) (steps : List Step) :
    Except Halt Reports := do
  let stage ← setup.stage settings.maxEvents (List.replicate count settings.mailboxCapacity)
    { sessions := freshSessions settings count, threaded : Own }
  let play : Play Own Reports := do
    let reports ← steps.mapM report
    releaseAll (← own).sessions
    return { steps := reports, registeredAtEnd := ← registered }
  return (← play.run stage).1

end SocketRelay.Scenario.Sessions
