import SocketRelay.Loopback.Kernel
import SocketRelay.Loopback.Peer
import SocketRelay.Protocol.Event
import SocketRelay.Reactor.Basic

/-!
# Scenarios

A scenario sets up a network with its peers and then takes one step after the other: steps of the
relay and steps of the peers. Since the network is a value and the relay's steps are functions, what
a scenario shows depends on its steps alone.

A scenario ends early when a step names something that is not there, or when the relay cannot go on
at all. What its steps have shown until then is lost.
-/
namespace SocketRelay.Scenario
open Loopback

/-- What a step can name that is not there. -/
inductive Missing where
  /-- A stream that was not accepted under this name, or was closed since. -/
  | stream (name : String)
  /-- The same, where the stream was to be closed. -/
  | streamToClose
  /-- A sender that a peer has not heard. -/
  | sender
  /-- A local pair. -/
  | pair (name : String)
  /-- The pair that a fresh one replaced. -/
  | replacedPair (name : String)
  | socket (index : Nat)
  | session (index : Nat)
  deriving DecidableEq, Repr

/-- The wording for something that is not there: the step or field, and the name where it helps. -/
def Missing.message : Missing → String
  | stream name => "conn " ++ name
  | streamToClose => "conn"
  | sender => "udp_send to"
  | pair name => "fd " ++ name
  | replacedPair name => "old pair of " ++ name
  | socket index => s!"v {index}"
  | session index => s!"s {index}"

/-- Why a scenario ends before its last step. -/
inductive Halt where
  /-- A step names something that is not there. -/
  | absent (what : Missing)
  /-- The relay cannot go on. -/
  | failed (cause : RelayError)
  deriving DecidableEq, Repr

/-- Where a scenario stands: the world, and what the scenario itself keeps. -/
structure Stage (σ : Type) where
  world : World Network
  own : σ

abbrev Play (σ α : Type) := StateT (Stage σ) (Except Halt) α

namespace Play
variable {σ α : Type}

def halt (h : Halt) : Play σ α := fun _ => .error h

def present (what : Missing) : Option α → Play σ α
  | some x => return x
  | none => halt (.absent what)

def required : Except RelayError α → Play σ α
  | .ok x => return x
  | .error e => halt (.failed e)

def act (action : Action Network α) : Play σ α := fun stage =>
  let (x, world) := action stage.world
  .ok (x, { stage with world })

def own : Play σ σ := return (← get).own

def setOwn (x : σ) : Play σ Unit := modify fun stage => { stage with own := x }

def network : Play σ Network := return (← get).world.system

def setNetwork (n : Network) : Play σ Unit := modify fun stage =>
  { stage with world := { stage.world with system := n } }

/-- A step of the network that also has a result. -/
def onNetwork (step : Network → α × Network) : Play σ α := do
  let (x, n) := step (← network)
  setNetwork n
  return x

def registered : Play σ Nat := return (← get).world.reactor.registered

/-- One poll. A failure ends the scenario. -/
def poll : Play σ Nat := do required (← act Reactor.pollOnce)

/-- Poll until nothing is delivered or, if a number is wanted, that many notes are. Returns the
number delivered. Each round but the last takes up room in a mailbox, so the bound on rounds is not
reached. -/
def pollUntil (wanted : Nat) : (rounds delivered : Nat) → Play σ Nat
  | 0, delivered => return delivered
  | rounds + 1, delivered => do
    let n ← poll
    let delivered := delivered + n
    if n = 0 ∨ (0 < wanted ∧ wanted ≤ delivered) then return delivered
    pollUntil wanted rounds delivered

end Play

/-- The most rounds of any repeated step. Every round that moves something uses up bytes, datagrams
or planned faults, of which no scenario has this many. -/
def manyRounds : Nat := 1000000

/-- Events in the order of their sockets, those of one socket in the order in which they came. The
order between sockets is that of the system's reports and says nothing about the relay. -/
def bySocket (events : List Protocol.Event) : List Protocol.Event :=
  events.mergeSort fun a b => a.socketId.toInt ≤ b.socketId.toInt

structure Setup where
  /-- Is there a route to anything? -/
  up : Bool := false
  /-- The most unread bytes that a stream holds for a peer. -/
  window : Nat := 65536
  faults : FaultPlan := []
  peers : List (String × PeerKind) := []

namespace Setup

def network (s : Setup) : Network :=
  s.peers.foldl (fun n peer => n.addPeer peer.1 peer.2)
    { up := s.up, window := s.window, faults := s.faults }

/-- Begin with a reactor and mailboxes of the given capacities. -/
def stage {σ : Type} (s : Setup) (maxEvents : Nat) (capacities : List Nat) (own : σ) :
    Except Halt (Stage σ) := do
  let mailboxes := (capacities.zipIdx.foldl
    (fun t c => t.insert c.2 (Mailbox.ofCapacity c.1)) Table.empty)
  let world : World Network :=
    { system := s.network, reactor := Reactor.ofMaxEvents maxEvents, mailboxes }
  let ready : Play σ Unit := do Play.required (← Play.act Reactor.acquire)
  return (← ready.run { world, own }).2

end Setup

/-- A step of a peer, or a change of the fault plan. Streams go by the names that they were given
when they were accepted. -/
inductive PeerStep where
  | receive (peer : String)
  /-- Does nothing wait at a peer? -/
  | idle (peer : String)
  /-- Send a datagram to a sender heard before, by its position. -/
  | reply (peer : String) (sender : Nat) (data : Bytes)
  | accept (peer stream : String)
  | send (stream : String) (data : Bytes)
  | read (stream : String) (most : Nat)
  /-- Send no more. -/
  | shutdown (stream : String)
  | close (stream : String)
  | abort (stream : String)
  | closePeer (peer : String)
  | plan (fault : Fault)

inductive PeerAnswer where
  | nothing
  | done
  | truth (value : Bool)
  | count (n : Nat)
  /-- A datagram, with the peer whose name stands for the port it came from. -/
  | datagram (received : Network.Received) (source : Option String)
  /-- A stream, with the peer whose name stands for the port it came from. -/
  | accepted (source : Option String)
  | bytes (read : Network.StreamRead)

namespace PeerStep
variable {σ : Type}
open Play

/-- Change an accepted stream that must be there. -/
def onStream (what : Missing) (step : Network → Option Network) : Play σ Unit := do
  setNetwork (← present what (step (← network)))

def play : PeerStep → Play σ PeerAnswer
  | receive peer => do
    match ← onNetwork (·.udpReceive peer) with
    | some received => return .datagram received ((← network).freePeerOfPort? received.source)
    | none => return .nothing
  | idle peer => return .truth ((← network).udpIdle peer)
  | reply peer sender data => do
    onStream .sender (·.udpSend? peer sender data)
    return .count data.length
  | accept peer stream => do
    match ← onNetwork (·.accept peer stream) with
    | some port => return .accepted ((← network).freePeerOfPort? port)
    | none => return .nothing
  | send stream data => do
    onStream (.stream stream) (·.streamSend? stream data)
    return .count data.length
  | read stream most => do
    let (data, n) ← present (.stream stream) ((← network).streamRead? stream most)
    setNetwork n
    return .bytes data
  | shutdown stream => do
    onStream (.stream stream) (·.streamShutdown? stream)
    return .done
  | close stream => do
    onStream .streamToClose (·.streamClose? stream)
    return .done
  | abort stream => do
    onStream .streamToClose (·.streamAbort? stream)
    return .done
  | closePeer peer => do
    setNetwork ((← network).closePeer peer)
    return .done
  | plan fault => do
    setNetwork ((← network).addFault fault)
    return .nothing

end PeerStep

end SocketRelay.Scenario
