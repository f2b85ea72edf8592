import SocketRelay.Scenario.Stage
import SocketRelay.Socket.Virtual

/-!
# Scenarios of bare sockets

Virtual sockets on one reactor and one mailbox, without a session around them. The scenario does
what a session would: it takes the notes from the mailbox and hands each to the socket whose present
token it carries.
-/
namespace SocketRelay.Scenario.Sockets
open Loopback
open Protocol (Event)

/-- An operation on a socket, or on all. -/
inductive Operation where
  | bind (port : Port)
  | connect (address : Bytes) (port : Port)
  | send (data : Bytes)
  | sendto (address : Bytes) (port : Port) (data : Bytes)
  /-- Handle a mask, whatever the real condition is. -/
  | ready (mask : Interest)
  | close
  | expire (now timeout : Nat)
  /-- Remove the registration behind the socket's back. -/
  | unregister
  | describe
  /-- Poll, and leave the notes where they are. -/
  | poll (wanted : Nat)
  /-- Poll and handle until nothing moves. -/
  | pump
  /-- Poll, handle and let the peer read, until nothing moves. -/
  | pumpRead (stream : String) (most : Nat)

/-- A step: something about the socket at an index, or something that a peer does. -/
inductive Step where
  | socket (index : Nat) (operation : Operation)
  | peer (step : PeerStep)

inductive Answer where
  | nothing
  | truth (value : Bool)
  | count (n : Nat)
  | result (result : Except RelayError Unit)
  | socket (socket : VirtualSocket)
  | bytes (data : Bytes)

inductive Report where
  /-- Answer, events, the socket afterwards and the number of registrations. -/
  | socket (answer : Answer) (events : List Event) (socket : VirtualSocket) (registered : Nat)
  | peer (answer : PeerAnswer)

structure Own where
  context : SocketContext
  sockets : List VirtualSocket

open Play

def mailbox : MailboxId := 0

def socketAt (index : Nat) : Play Own VirtualSocket := do
  present (.socket index) (← own).sockets[index]?

def setSocket (index : Nat) (s : VirtualSocket) : Play Own Unit := do
  let o ← own
  setOwn { o with sockets := o.sockets.set index s }

/-- Hand a note to the socket whose present token it carries. -/
def handle (r : Readiness) : Play Own (List Event) := do
  let o ← own
  match o.sockets.findIdx? fun s => s.token = some r.token with
  | none => return []
  | some index =>
    let s ← socketAt index
    let (s, events) ← act (s.handleReady o.context r.events)
    setSocket index s
    return events

def handleNotes : Nat → Play Own (List Event)
  | 0 => return []
  | most + 1 => do
    match ← act (takeNote mailbox) with
    | none => return []
    | some r =>
      let events ← handle r
      return events ++ (← handleNotes most)

/-- One poll and all that it posted. Returns the number delivered and the events. -/
def round : Play Own (Nat × List Event) := do
  let n ← poll
  let waiting := ((← get).world.mailbox mailbox).queue.length
  return (n, ← handleNotes waiting)

/-- Rounds until nothing moves. Returns the events of the rounds, the latest round first. -/
def pump : (rounds : Nat) → List (List Event) → Play Own (List (List Event))
  | 0, events => return events
  | rounds + 1, events => do
    let (n, caused) ← round
    if n = 0 then return caused :: events
    pump rounds (caused :: events)

/-- What rounds with a reading peer have given so far, the latest round first. -/
structure Pumped where
  pieces : List Bytes := []
  events : List (List Event) := []

/-- Rounds in which the peer also reads up to a number of bytes in all, until nothing moves. -/
def pumpRead (stream : String) : (most rounds : Nat) → Pumped → Play Own Pumped
  | _, 0, pumped => return pumped
  | most, rounds + 1, pumped => do
    let (n, caused) ← round
    let (piece, network) ← present (.stream stream) ((← network).streamRead? stream most)
    setNetwork network
    let pumped := ⟨piece.data :: pumped.pieces, caused :: pumped.events⟩
    if n = 0 ∧ piece.data.isEmpty then return pumped
    pumpRead stream (most - piece.data.length) rounds pumped

/-- Put the outcome of an operation in place. -/
def settle (index : Nat) (outcome : VirtualSocket.Outcome) : Play Own (Answer × List Event) := do
  setSocket index outcome.socket
  return (.result outcome.result, outcome.events)

def perform (index : Nat) (operation : Operation) : Play Own (Answer × List Event) := do
  let s ← socketAt index
  let context := (← own).context
  match operation with
  | .bind port =>
    match s.bind port with
    | .ok bound =>
      setSocket index bound
      return (.result (.ok ()), [])
    | .error e => return (.result (.error e), [])
  | .connect address port => settle index (← act (s.connect context address port))
  | .send data => settle index (← act (s.send context data))
  | .sendto address port data => settle index (← act (s.sendto context address port data))
  | .ready mask =>
    let (s, events) ← act (s.handleReady context mask)
    setSocket index s
    return (.nothing, events)
  | .close =>
    setSocket index (← act s.close)
    return (.nothing, [])
  | .expire now timeout =>
    let (s, events, expired) ← act (s.expireConnect now timeout)
    setSocket index s
    return (.truth expired, events)
  | .unregister =>
    match s.token with
    | some token => return (.result (← act (Reactor.unregister token.descriptor)), [])
    | none => return (.nothing, [])
  | .describe => return (.socket s, [])
  | .poll wanted => return (.count (← pollUntil wanted manyRounds 0), [])
  | .pump =>
    let events ← pump manyRounds []
    return (.nothing, events.reverse.flatten)
  | .pumpRead stream most =>
    let pumped ← pumpRead stream most manyRounds {}
    return (.bytes pumped.pieces.reverse.flatten, pumped.events.reverse.flatten)

def report : Step → Play Own Report
  | .peer step => return .peer (← step.play)
  | .socket index operation => do
    let (answer, events) ← perform index operation
    return .socket answer (bySocket events) (← socketAt index) (← registered)

def closeAll : List VirtualSocket → Play Own Unit
  | [] => return
  | s :: rest => do
    let _ ← act s.close
    closeAll rest

/-- What a scenario shows: its steps, and the number of registrations after all sockets were
closed. -/
structure Reports where
  steps : List Report
  registeredAtEnd : Nat

def run (setup : Setup) (settings : Settings) (sockets : List VirtualSocket) (steps : List Step) :
    Except Halt Reports := do
  let stage ← setup.stage settings.maxEvents [settings.mailboxCapacity]
    { context := ⟨mailbox, settings⟩, sockets : Own }
  let play : Play Own Reports := do
    let reports ← steps.mapM report
    closeAll (← own).sockets
    return { steps := reports, registeredAtEnd := ← registered }
  return (← play.run stage).1

end SocketRelay.Scenario.Sockets
