import SocketRelay.Loopback.Network

/-!
# The network as an operating system

How the network answers system calls. Planned faults come before every other check; only calls on
something that is no IPv4 socket fail before that. The rules follow those of datagram and stream
sockets on one host: a connect is in progress until its outcome is noticed, data moves at once as
far as the window allows, and a pending error is reported once, by whichever call asks first.
-/
namespace SocketRelay.Loopback.Network

def use (n : Network) (point : FaultPoint) : Option Errno × Network :=
  let (met, faults) := n.faults.use point
  (met, { n with faults })

def guarded {α : Type} (n : Network) (point : FaultPoint)
    (go : Network → Except Errno α × Network) : Except Errno α × Network :=
  match n.use point with
  | (some e, n) => (.error e, n)
  | (none, n) => go n

/-- Go on with an IPv4 socket; anything else has no such calls. -/
def onSocket {α : Type} (n : Network) (d : Descriptor) (point : FaultPoint)
    (go : Device → Network → Except Errno α × Network) : Except Errno α × Network :=
  match n.device? d with
  | some (.udp port inbox) => n.guarded point (go (.udp port inbox))
  | some (.tcp port stream) => n.guarded point (go (.tcp port stream))
  | some _ => (.error Errno.notSocket, n)
  | none => (.error Errno.badDescriptor, n)

/-- The open peer of some kind on a port. -/
def peerAt? (n : Network) (kind : PeerKind) (port : Port) : Option (String × Peer) :=
  n.peers.rows.find? fun p => p.2.kind = kind && p.2.port = port && !p.2.closed

/-- Does a peer hold the port, so that it cannot be bound? -/
def portHeld (n : Network) (device : Device) (port : Port) : Bool :=
  match device with
  | .udp _ _ => (n.peerAt? .udp port).isSome
  | .tcp _ _ => (n.peerAt? .listener port).isSome || (n.peerAt? .refusing port).isSome
  | _ => false

/-- Bind a socket that has no local port yet. Port zero takes the next ephemeral one. -/
def bindSocket (n : Network) (d : Descriptor) (device : Device) (port : Port) :
    Except Errno Unit × Network :=
  let chosen := if port = 0 then n.nextEphemeral else port
  let n := if port = 0 then { n with nextEphemeral := n.nextEphemeral + 1 } else n
  match device with
  | .udp none inbox =>
    if port ≠ 0 && n.portHeld device port then (.error Errno.addressInUse, n)
    else (.ok (), n.setDevice d (.udp (some chosen) inbox))
  | .tcp none stream =>
    if port ≠ 0 && n.portHeld device port then (.error Errno.addressInUse, n)
    else (.ok (), n.setDevice d (.tcp (some chosen) stream))
  | _ => (.error Errno.invalid, n)

/-- The local port of a device; zero while it has none. -/
def devicePort : Device → Port
  | .udp port _ | .tcp port _ => port.getD 0
  | _ => 0

/-- Is there a live stream from this port to this destination? -/
def pathTaken (n : Network) (port : Port) (destination : Endpoint4) : Bool :=
  n.streams.values.any fun s =>
    s.localPort = port && s.destination = destination && !s.broken && !s.localClosed

def addStream (n : Network) (d : Descriptor) (port : Option Port) (s : Stream) : Network :=
  let id := n.nextStream
  ({ n with streams := n.streams.insert id s, nextStream := id + 1 }.setDevice d
    (.tcp port (some id)))

/-- Begin a TCP connect. With a listener the stream stands at once and waits to be accepted; without
one it is refused. Returns whether there was a listener. -/
def beginStream (n : Network) (d : Descriptor) (port : Option Port) (destination : Endpoint4) :
    Bool × Network :=
  let s : Stream := { localPort := port.getD 0, destination }
  let listener :=
    if destination.address = localAddress then n.peerAt? .listener destination.port else none
  match listener with
  | some (name, _) =>
    let id := n.nextStream
    let n := n.addStream d port s
    (true, { n with
      peers := n.peers.modify name fun p => { p with backlog := p.backlog ++ [id] } })
  | none =>
    (false, n.addStream d port { s with broken := true, error := some Errno.connectionRefused })

/-- Connect a TCP socket. `atOnce` says that a connect that finds a listener is not left in
progress. -/
def connectStream (n : Network) (d : Descriptor) (port : Option Port) (destination : Endpoint4)
    (atOnce : Bool) : Except Errno Unit × Network :=
  if !n.up || destination.address = broadcastAddress then (.error Errno.networkUnreachable, n)
  else if port.any fun p => n.pathTaken p destination then (.error Errno.addressNotAvailable, n)
  else
    let (accepted, n) := n.beginStream d port destination
    (if atOnce && accepted then .ok () else .error Errno.inProgress, n)

/-- Connect a socket. A UDP socket is connected as soon as there is a route. -/
def connectDevice (n : Network) (d : Descriptor) (device : Device) (destination : Endpoint4)
    (atOnce : Bool) : Except Errno Unit × Network :=
  match device with
  | .tcp port _ => n.connectStream d port destination atOnce
  | _ => (if n.up then .ok () else .error Errno.networkUnreachable, n)

/-- Connect a descriptor. A planned fault with number zero is no failure but makes the connect
immediate; one that says that a connect is under way leaves it so for ever. -/
def connect (n : Network) (d : Descriptor) (destination : Endpoint4) :
    Except Errno Unit × Network :=
  let go (device : Device) : Except Errno Unit × Network :=
    match n.use .connect with
    | (some e, n) =>
      if e.number = 0 then n.connectDevice d device destination true else (.error e, n)
    | (none, n) => n.connectDevice d device destination false
  match n.device? d with
  | some (.udp port inbox) => go (.udp port inbox)
  | some (.tcp port stream) => go (.tcp port stream)
  | some _ => (.error Errno.notSocket, n)
  | none => (.error Errno.badDescriptor, n)

/-- Report the pending error of a socket and clear it. -/
def takeError (n : Network) (d : Descriptor) : Except Errno (Option Errno) × Network :=
  match n.streamOf? d with
  | some (id, s) => (.ok s.error, n.setStream id { s with error := none })
  | none => (.ok none, n)

/-- Write on a stream. A peer that has closed its end takes the bytes and answers with a reset. -/
def writeStream (n : Network) (id : StreamId) (s : Stream) (data : Bytes) :
    Except Errno Nat × Network :=
  match s.error with
  | some e => (.error e, n.setStream id { s with error := none })
  | none =>
    if s.broken then (.error Errno.brokenPipe, n)
    else if data.isEmpty then (.ok 0, n)
    else
      let taken := data.take (n.window - s.outbound.length)
      if taken.isEmpty then (.error Errno.again, n)
      else if s.peerClosed then
        (.ok taken.length,
          n.setStream id { s with broken := true, error := some Errno.brokenPipe })
      else (.ok taken.length, n.setStream id { s with outbound := s.outbound ++ taken })

def send (n : Network) (d : Descriptor) (device : Device) (data : Bytes) :
    Except Errno Nat × Network :=
  match device, n.streamOf? d with
  | .udp _ _, _ => (.error Errno.destinationRequired, n)
  | _, some (id, s) => n.writeStream id s data
  | _, none => (.error Errno.brokenPipe, n)

/-- Hand a datagram to the peer on a port, if there is one. -/
def arrive (n : Network) (source : Port) (data : Bytes) (destination : Endpoint4) : Network :=
  match n.peerAt? .udp destination.port with
  | some (name, _) =>
    if destination.address = localAddress then
      { n with peers := n.peers.modify name fun p =>
          { p with arrived := p.arrived ++ [(source, data)] } }
    else n
  | none => n

def sendTo (n : Network) (d : Descriptor) (device : Device) (data : Bytes)
    (destination : Endpoint4) : Except Errno Nat × Network :=
  match device with
  | .udp port inbox =>
    if 65535 < data.length then (.error Errno.messageTooLong, n)
    else if destination.port = 0 then (.error Errno.invalid, n)
    else if !n.up then (.error Errno.networkUnreachable, n)
    else if destination.address = broadcastAddress then (.error Errno.accessDenied, n)
    else if 65507 < data.length then (.error Errno.messageTooLong, n)
    else
      let source := port.getD n.nextEphemeral
      let n := if port.isSome then n
        else { n with nextEphemeral := n.nextEphemeral + 1 }.setDevice d (.udp (some source) inbox)
      (.ok data.length, n.arrive source data destination)
  | _ => (.error Errno.brokenPipe, n)

/-- Read from a stream: data first, then a pending error, then the end. -/
def readStream (n : Network) (id : StreamId) (s : Stream) (size : Nat) :
    Except Errno Bytes × Network :=
  if !s.inbound.isEmpty then
    (.ok (s.inbound.take size), n.setStream id { s with inbound := s.inbound.drop size })
  else
    match s.error with
    | some e => (.error e, n.setStream id { s with error := none })
    | none =>
      if size = 0 || s.broken || s.inboundEnded then (.ok [], n) else (.error Errno.again, n)

/-- Read from a socket: a datagram cut to size, or bytes of a stream. -/
def recv (n : Network) (d : Descriptor) (device : Device) (size : Nat) :
    Except Errno Bytes × Network :=
  match device, n.streamOf? d with
  | .udp _ [], _ => (.error Errno.again, n)
  | .udp port (first :: rest), _ => (.ok (first.take size), n.setDevice d (.udp port rest))
  | _, some (id, s) => n.readStream id s size
  | _, none => (.error Errno.notConnected, n)

def addWatch (n : Network) (d : Descriptor) (bits : UInt32) (token : Token) :
    Except Errno Unit × Network :=
  match n.file? d with
  | none => (.error Errno.badDescriptor, n)
  | some f =>
    if (n.watch? (f, d)).isSome then (.error Errno.alreadyExists, n)
    else (.ok (), { n with watches := n.watches ++ [{ file := f, descriptor := d, bits, token }] })

/-- Go on with the entry of a descriptor. -/
def onWatch (n : Network) (d : Descriptor) (go : WatchKey → Network) :
    Except Errno Unit × Network :=
  match n.file? d with
  | none => (.error Errno.badDescriptor, n)
  | some f => if (n.watch? (f, d)).isSome then (.ok (), go (f, d)) else (.error Errno.noEntry, n)

/-- The answer to a call and the network afterwards. -/
def answer (n : Network) : (c : Call) → c.Answer × Network
  | .openSocket kind =>
    n.guarded .socket fun n =>
      let (d, n) := n.openFile (match kind with
        | .udp => .udp none []
        | .tcp => .tcp none none)
      (.ok d, n)
  | .setReuseAddress d => n.onSocket d .setsockopt fun _ n => (.ok (), n)
  | .bindAny d port => n.onSocket d .bind fun device n => n.bindSocket d device port
  | .localPort d =>
    match n.device? d with
    | some (.udp port _) => (.ok (devicePort (.udp port [])), n)
    | some (.tcp port _) => (.ok (devicePort (.tcp port none)), n)
    | some _ => (.error Errno.notSocket, n)
    | none => (.error Errno.badDescriptor, n)
  | .connect d destination => n.connect d destination
  | .takeError d => n.onSocket d .getsockopt fun _ n => n.takeError d
  | .send d data => n.onSocket d .send fun device n => n.send d device data
  | .sendTo d data destination =>
    n.onSocket d .sendto fun device n => n.sendTo d device data destination
  | .recv d size => n.onSocket d .recv fun device n => n.recv d device size
  | .close d => ((), n.closeDescriptor d)
  | .epollCreate => n.guarded .epollCreate fun n => (.ok (), n)
  | .epollAdd d bits token => n.guarded .epollAdd fun n => n.addWatch d bits token
  | .epollModify d bits token =>
    n.guarded .epollModify fun n =>
      n.onWatch d fun key => n.modifyWatch key fun w => { w with bits, token, armed := true }
  | .epollRemove d =>
    n.guarded .epollRemove fun n => n.onWatch d fun key => n.forgetWatches (· = key)
  | .epollWait most =>
    n.guarded .epollWait fun n =>
      let (reports, n) := n.report most n.due
      (.ok reports, n)

instance : OperatingSystem Network where
  respond n c :=
    let (a, n) := n.answer c
    (a, n.settle)

end SocketRelay.Loopback.Network
