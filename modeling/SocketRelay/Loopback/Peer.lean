import SocketRelay.Loopback.Network

/-!
# What peers do

The other side of the network: peers receive and answer datagrams, accept streams, read, write and
close them. Every step leaves the queue of ready registrations up to date, so the relay learns of it
at its next poll.
-/
namespace SocketRelay.Loopback.Network

/-- Add a peer. Its port is the next one from a block that no scenario names by number. -/
def addPeer (n : Network) (name : String) (kind : PeerKind) : Network :=
  let port := UInt16.ofNat (23911 + n.peers.size)
  { n with peers := n.peers.insert name { kind, port } }

def portOf? (n : Network) (name : String) : Option Port := (n.peers.get? name).map Peer.port

def peerOfPort? (n : Network) (port : Port) : Option String :=
  (n.peers.rows.find? fun p => p.2.port = port).map Prod.fst

def freePeerOfPort? (n : Network) (port : Port) : Option String :=
  (n.peers.rows.find? fun p => p.2.kind = .free && p.2.port = port).map Prod.fst

def addFault (n : Network) (f : Fault) : Network := { n with faults := n.faults ++ [f] }

structure Received where
  data : Bytes
  /-- The position of the sender among those that the peer has heard. -/
  sender : Nat
  source : Port
  deriving DecidableEq, Repr

/-- Take the oldest datagram that waits at a peer. -/
def udpReceive (n : Network) (name : String) : Option Received × Network :=
  match n.peers.get? name with
  | none => (none, n)
  | some p =>
    match p.arrived with
    | [] => (none, n)
    | (source, data) :: arrived =>
      let senders := if p.senders.contains source then p.senders else p.senders ++ [source]
      (some ⟨data, senders.idxOf source, source⟩,
        { n with peers := n.peers.insert name { p with arrived, senders } })

def udpIdle (n : Network) (name : String) : Bool :=
  match n.peers.get? name with
  | some p => p.arrived.isEmpty
  | none => true

/-- The newest file that is a UDP socket on a port. -/
def newestUdp? (n : Network) (port : Port) : Option (FileId × Device) :=
  n.files.rows.foldl
    (fun best row =>
      match row.2 with
      | .udp (some p) _ => if p = port then some row else best
      | _ => best)
    none

/-- Send a datagram from a peer to a sender that it has heard. A socket that is gone loses it; of
several sockets on the port the newest gets it. Returns `none` if there is no such sender. -/
def udpSend? (n : Network) (name : String) (sender : Nat) (data : Bytes) : Option Network :=
  match (n.peers.get? name).bind fun p => p.senders[sender]? with
  | none => none
  | some port =>
    match n.newestUdp? port with
    | some (f, .udp bound inbox) =>
      some { n with files := n.files.insert f (.udp bound (inbox ++ [data])) }.settle
    | _ => some n

/-- Accept the oldest stream that waits at a listener and name it. Returns the port that it comes
from. -/
def accept (n : Network) (peer name : String) : Option Port × Network :=
  match n.peers.get? peer with
  | none => (none, n)
  | some p =>
    match p.backlog with
    | [] => (none, n)
    | id :: backlog =>
      ((n.streams.get? id).map Stream.localPort,
        { n with
          peers := n.peers.insert peer { p with backlog }
          accepted := n.accepted.insert name id })

def acceptedStream? (n : Network) (name : String) : Option (StreamId × Stream) :=
  (n.accepted.get? name).bind fun id => (n.streams.get? id).map fun s => (id, s)

def streamSend? (n : Network) (name : String) (data : Bytes) : Option Network :=
  (n.acceptedStream? name).map fun (id, s) =>
    (n.setStream id { s with inbound := s.inbound ++ data }).settle

structure StreamRead where
  data : Bytes
  /-- Was everything read, and has the relay closed its end? `none` if all bytes asked for came. -/
  ended : Option Bool
  deriving DecidableEq, Repr

/-- Read up to a number of bytes at the peer's end. -/
def streamRead? (n : Network) (name : String) (most : Nat) : Option (StreamRead × Network) :=
  (n.acceptedStream? name).map fun (id, s) =>
    let data := s.outbound.take most
    let ended := if data.length = most then none else some s.localClosed
    (⟨data, ended⟩, (n.setStream id { s with outbound := s.outbound.drop most }).settle)

def streamShutdown? (n : Network) (name : String) : Option Network :=
  (n.acceptedStream? name).map fun (id, s) =>
    (n.setStream id { s with inboundEnded := true }).settle

def resetByPeer (s : Stream) : Stream :=
  { s with broken := true, peerClosed := true, error := some Errno.connectionReset }

def streamAbort? (n : Network) (name : String) : Option Network :=
  (n.acceptedStream? name).map fun (id, s) =>
    { n.setStream id (resetByPeer s) with accepted := n.accepted.erase name }.settle

/-- Close the peer's end. Unread bytes make it a reset. -/
def streamClose? (n : Network) (name : String) : Option Network :=
  (n.acceptedStream? name).map fun (id, s) =>
    let s := if s.outbound.isEmpty then { s with inboundEnded := true, peerClosed := true }
      else resetByPeer s
    { n.setStream id s with accepted := n.accepted.erase name }.settle

/-- Close a peer. A listener resets the streams that it has not accepted. -/
def closePeer (n : Network) (name : String) : Network :=
  match n.peers.get? name with
  | none => n
  | some p =>
    let streams := p.backlog.foldl (fun t id => t.modify id resetByPeer) n.streams
    { n with
      streams
      peers := n.peers.insert name { p with closed := true, backlog := [] } }.settle

def openPair (n : Network) (kind : PairKind) : Descriptor × Network :=
  n.openFile (.pair { kind })

def modifyPair (n : Network) (f : FileId) (g : PairEnd → PairEnd) : Network :=
  { n with files := n.files.modify f fun
      | .pair e => .pair (g e)
      | device => device }.settle

/-- Let a fresh pair take over a descriptor number while the old file stays open elsewhere. -/
def replacePair (n : Network) (d : Descriptor) (kind : PairKind) : Network :=
  let pinned := match n.file? d with
    | some f => f :: n.pinned
    | none => n.pinned
  { n with pinned }.openAs d (.pair { kind })

/-- A message from the other end. No bytes on a stream are no message. -/
def pairArrive (n : Network) (f : FileId) (data : Bytes) : Network :=
  n.modifyPair f fun e =>
    if e.kind = .stream ∧ data.isEmpty then e else { e with inbox := e.inbox ++ [data] }

/-- A message to the other end, which does not read it. -/
def pairWrite (n : Network) (f : FileId) (data : Bytes) : Network :=
  n.modifyPair f fun e =>
    if e.kind = .stream ∧ data.isEmpty then e else { e with unreadAtPeer := true }

/-- The other end closes. A stream ends by it, with an error if bytes were left unread; a datagram
end is as it was. -/
def pairPeerClose (n : Network) (f : FileId) : Network :=
  n.modifyPair f fun e =>
    { e with peerClosed := true, failed := e.kind = .stream && e.unreadAtPeer }

/-- Read at the watched end: one datagram, or all bytes of a stream. -/
def pairRead (n : Network) (d : Descriptor) : Option Bytes × Network :=
  match n.file? d, n.device? d with
  | some f, some (.pair e) =>
    match e.kind, e.inbox with
    | _, [] => (if e.kind = .stream && e.peerClosed && !e.failed then some [] else none,
        n.modifyPair f fun e => { e with failed := false })
    | .datagram, first :: rest => (some first, n.modifyPair f fun e => { e with inbox := rest })
    | .stream, chunks => (some chunks.flatten, n.modifyPair f fun e => { e with inbox := [] })
  | _, _ => (none, n)

end SocketRelay.Loopback.Network
