import SocketRelay.Loopback.Fault
import SocketRelay.Reactor.Interest
import SocketRelay.Table

/-!
# A network on one host

A network small enough to be a value: the relay's descriptors, the peers that wait on the local
address, the streams between them, and the interest list with its queue of ready registrations. It
serves to run a relay against peers that do what a scenario tells them.

Descriptor numbers refer to open files. A number may be given to another file while the first stays
open elsewhere, so the interest list remembers the file together with the number. A stream is kept
as one value seen from both ends. What is ready is computed from these values; nothing else decides
whether a registration fires.
-/
namespace SocketRelay.Loopback

abbrev FileId := Nat

abbrev StreamId := Nat

inductive PairKind where
  | datagram
  | stream
  deriving DecidableEq, Repr

/-- The watched end of a local pair, with what is known of the other end. -/
structure PairEnd where
  kind : PairKind
  /-- What has arrived and is not read yet, message by message. -/
  inbox : List Bytes := []
  /-- Has the other end bytes of ours that it has not read? -/
  unreadAtPeer : Bool := false
  peerClosed : Bool := false
  /-- Has the end of the other side left an error behind? -/
  failed : Bool := false
  deriving DecidableEq, Repr

inductive Device where
  /-- A UDP socket with its local port and the datagrams that wait. -/
  | udp (localPort : Option Port) (inbox : List Bytes)
  /-- A TCP socket with its local port and its stream, once it has one. -/
  | tcp (localPort : Option Port) (stream : Option StreamId)
  | pair (ends : PairEnd)
  /-- Something that is no socket. -/
  | other
  deriving DecidableEq, Repr

/-- A TCP stream between a socket of the relay and a peer. -/
structure Stream where
  localPort : Port
  destination : Endpoint4
  /-- Bytes on the way to the relay. -/
  inbound : Bytes := []
  /-- Does the peer send no more? -/
  inboundEnded : Bool := false
  /-- Bytes that the peer has not read. -/
  outbound : Bytes := []
  /-- The error that the relay's end has not been told of yet. -/
  error : Option Errno := none
  /-- Was the stream refused or reset? -/
  broken : Bool := false
  /-- Has the relay closed its end? -/
  localClosed : Bool := false
  /-- Has the peer closed its end? -/
  peerClosed : Bool := false
  deriving DecidableEq, Repr

/-- What waits on a port of the local address. -/
inductive PeerKind where
  | udp
  /-- Accepts TCP connections. -/
  | listener
  /-- Holds a port but accepts nobody. -/
  | refusing
  /-- Only a name for a port that nobody holds. -/
  | free
  deriving DecidableEq, Repr

structure Peer where
  kind : PeerKind
  port : Port
  closed : Bool := false
  /-- Datagrams that wait, with the ports they came from. -/
  arrived : List (Port × Bytes) := []
  /-- The ports of the senders heard so far, in order. -/
  senders : List Port := []
  /-- Streams not accepted yet, oldest first. -/
  backlog : List StreamId := []
  deriving DecidableEq, Repr

structure Watch where
  file : FileId
  descriptor : Descriptor
  bits : UInt32
  token : Token
  /-- Will it be reported when a condition holds? -/
  armed : Bool := true
  deriving DecidableEq, Repr

/-- What names an entry of the interest list. -/
abbrev WatchKey := FileId × Descriptor

def Watch.key (w : Watch) : WatchKey := (w.file, w.descriptor)

structure Network where
  /-- Is there a route to anything? -/
  up : Bool := false
  /-- The most unread bytes that a stream holds for a peer. -/
  window : Nat := 65536
  faults : FaultPlan := []
  descriptors : Table Descriptor FileId := Table.empty
  files : Table FileId Device := Table.empty
  nextFile : FileId := 0
  /-- Files that are held open by something else than a descriptor. -/
  pinned : List FileId := []
  streams : Table StreamId Stream := Table.empty
  nextStream : StreamId := 0
  nextEphemeral : Port := 32768
  peers : Table String Peer := Table.empty
  /-- Accepted streams by the names that the scenario gave them. -/
  accepted : Table String StreamId := Table.empty
  watches : List Watch := []
  /-- Entries that are due, in the order in which they became so. -/
  due : List WatchKey := []

namespace Network

def localAddress : Ipv4 := ⟨127, 0, 0, 1⟩

def broadcastAddress : Ipv4 := ⟨127, 255, 255, 255⟩

def file? (n : Network) (d : Descriptor) : Option FileId := n.descriptors.get? d

def device? (n : Network) (d : Descriptor) : Option Device := (n.file? d).bind n.files.get?

def setDevice (n : Network) (d : Descriptor) (device : Device) : Network :=
  match n.file? d with
  | some f => { n with files := n.files.insert f device }
  | none => n

def setStream (n : Network) (id : StreamId) (s : Stream) : Network :=
  { n with streams := n.streams.insert id s }

def streamOf? (n : Network) (d : Descriptor) : Option (StreamId × Stream) :=
  match n.device? d with
  | some (.tcp _ (some id)) => (n.streams.get? id).map fun s => (id, s)
  | _ => none

/-- The lowest descriptor number from three on that is not in use. -/
def freeDescriptor (n : Network) : Descriptor :=
  let candidates := (List.range (n.descriptors.size + 1)).map fun i => Int32.ofNat (i + 3)
  (candidates.find? fun d => !n.descriptors.contains d).getD 3

/-- Open a file under a given descriptor number. -/
def openAs (n : Network) (d : Descriptor) (device : Device) : Network :=
  { n with
    descriptors := n.descriptors.insert d n.nextFile
    files := n.files.insert n.nextFile device
    nextFile := n.nextFile + 1 }

/-- Open a file under the lowest free descriptor number. -/
def openFile (n : Network) (device : Device) : Descriptor × Network :=
  let d := n.freeDescriptor
  (d, n.openAs d device)

/-- The conditions that hold of a stream, seen from the relay. -/
def streamConditions (n : Network) (s : Stream) : Interest where
  read := !s.inbound.isEmpty || s.inboundEnded || s.broken
  write := s.broken || s.outbound.length < n.window
  hangup := s.broken
  error := s.error.isSome

def conditions (n : Network) : Device → Interest
  | .udp _ inbox => { read := !inbox.isEmpty, write := true }
  | .tcp _ none => {}
  | .tcp _ (some id) =>
    match n.streams.get? id with
    | some s => n.streamConditions s
    | none => {}
  | .pair e =>
    { read := !e.inbox.isEmpty || (e.kind = .stream && e.peerClosed)
      write := true
      hangup := e.kind = .stream && e.peerClosed
      error := e.failed }
  | .other => {}

/-- The bits that an entry would report now: reading and writing as asked for, hangup and error
always. -/
def dueBits (n : Network) (w : Watch) : UInt32 :=
  match n.files.get? w.file with
  | none => 0
  | some device =>
    let c := n.conditions device
    (if c.read then w.bits &&& EpollBits.input else 0) |||
      (if c.write then w.bits &&& EpollBits.output else 0) |||
      (if c.hangup then EpollBits.hangup else 0) ||| (if c.error then EpollBits.error else 0)

/-- Queue the armed entries that have become due. -/
def settle (n : Network) : Network :=
  let fresh := n.watches.filter fun w => w.armed && !n.due.contains w.key && n.dueBits w ≠ 0
  { n with due := n.due ++ fresh.map Watch.key }

def watch? (n : Network) (key : WatchKey) : Option Watch := n.watches.find? fun w => w.key = key

def modifyWatch (n : Network) (key : WatchKey) (f : Watch → Watch) : Network :=
  { n with watches := n.watches.map fun w => if w.key = key then f w else w }

def forgetWatches (n : Network) (p : WatchKey → Bool) : Network :=
  { n with
    watches := n.watches.filter fun w => !p w.key
    due := n.due.filter fun key => !p key }

/-- Report up to `most` of the queued entries. An entry that is no longer due leaves the queue
unreported and stays armed; a reported one is silent until it is renewed. -/
def report (n : Network) : (most : Nat) → List WatchKey → List (UInt32 × Token) × Network
  | 0, queued => ([], { n with due := queued })
  | _, [] => ([], { n with due := [] })
  | most + 1, key :: queued =>
    match n.watch? key with
    | none => n.report (most + 1) queued
    | some w =>
      let bits := n.dueBits w
      if !w.armed || bits = 0 then n.report (most + 1) queued
      else
        let (reports, n) :=
          (n.modifyWatch key fun w => { w with armed := false }).report most queued
        ((bits, w.token) :: reports, n)

/-- What closing a device does to the rest of the network. -/
def releaseDevice (n : Network) : Device → Network
  | .tcp _ (some id) =>
    { n with streams := n.streams.modify id fun s => { s with localClosed := true } }
  | _ => n

/-- Close a descriptor. The file goes with its last holder, and its entries of the interest list go
with it. -/
def closeDescriptor (n : Network) (d : Descriptor) : Network :=
  match n.file? d with
  | none => n
  | some f =>
    let n := { n with descriptors := n.descriptors.erase d }
    if n.pinned.contains f || n.descriptors.values.contains f then n
    else
      let n := match n.files.get? f with
        | some device => n.releaseDevice device
        | none => n
      { n with files := n.files.erase f }.forgetWatches fun key => key.1 = f

end Network

end SocketRelay.Loopback
