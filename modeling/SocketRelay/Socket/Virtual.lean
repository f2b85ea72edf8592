import SocketRelay.Protocol.Event
import SocketRelay.Reactor.Basic
import SocketRelay.Settings.Basic
import SocketRelay.Socket.Destination

/-!
# Virtual sockets

What a client sees of a socket: a number, a transport, perhaps a local port. The real socket behind
it is opened at the first connect (TCP) or at the first datagram sent (UDP), and from then on it is
registered with the reactor.

A TCP socket goes from unbound over bound, connecting and connected to closed, and may skip stages;
a UDP socket goes from unbound over bound and open to closed. No operation waits: the outcome of a
connect, arriving data and the end of a peer come later as readiness.

Every operation returns the socket as it is afterwards, the events for the client in order, and a
result. The readiness phases run in the fixed order error, write, read, hangup; a phase on a socket
that an earlier one closed does nothing.
-/
namespace SocketRelay
open Protocol (Event)

/-- What a client can tell of a socket's state. -/
inductive SocketState where
  | unbound
  | bound
  /-- A connect is under way. -/
  | connecting
  | connected
  /-- A UDP socket with a real socket behind it. -/
  | opened
  | closed
  deriving DecidableEq, Repr

def SocketState.name : SocketState → String
  | unbound => "Unbound"
  | bound => "Bound"
  | connecting => "Connecting"
  | connected => "Connected"
  | opened => "Open"
  | closed => "Closed"

/-- What a socket needs to know of its session. -/
structure SocketContext where
  mailbox : MailboxId
  settings : Settings

/-- A socket as a client sees it, with the real one behind it. -/
structure VirtualSocket where
  id : SocketId
  kind : SocketKind
  /-- The port to bind to, once the client has named one. Zero lets the system choose. -/
  localPort : Option Port := none
  descriptor : Option Descriptor := none
  token : Option Token := none
  /-- The instant at which a connect began that is still pending. -/
  connectStarted : Option Nat := none
  connected : Bool := false
  /-- Bytes accepted from the client that the system has not taken yet. -/
  outbound : Bytes := []
  closed : Bool := false
  deriving DecidableEq, Repr

namespace VirtualSocket
variable {κ : Type}

def state (s : VirtualSocket) : SocketState :=
  if s.closed then .closed
  else if s.kind = .tcp ∧ s.connectStarted.isSome then .connecting
  else if s.kind = .tcp ∧ s.connected then .connected
  else if s.kind = .udp ∧ s.descriptor.isSome then .opened
  else if s.localPort.isSome then .bound
  else .unbound

def isConnecting (s : VirtualSocket) : Bool := s.connectStarted.isSome

/-- The real socket, as long as the virtual one is open. -/
def live? (s : VirtualSocket) : Option Descriptor := if s.closed then none else s.descriptor

/-- What to listen for: always data and the end, room to write while something waits for it. -/
def interest (s : VirtualSocket) : Interest where
  read := true
  write := s.isConnecting || !s.outbound.isEmpty
  hangup := true
  error := true

/-- The written socket, with ports written as given. -/
def textWith (portText : Port → String) (s : VirtualSocket) : String :=
  let port := (s.localPort.map fun p => "Some(" ++ portText p ++ ")").getD "None"
  let kind := match s.kind with
    | .tcp => "Tcp"
    | .udp => "Udp"
  s!"VirtualSocket \x7b id: {s.id.toInt}, kind: {kind}, state: {s.state.name}, " ++
    s!"local_port: {port}, queued: {s.outbound.length} \x7d"

def text (s : VirtualSocket) : String := s.textWith fun p => toString p.toNat

/-- Record the local port, once and before any traffic. -/
def bind (s : VirtualSocket) (port : Port) : Except RelayError VirtualSocket :=
  if s.descriptor.isSome ∨ s.closed then .error (.alreadyConnected s.id)
  else if s.localPort.isSome then .error (.alreadyBound s.id)
  else .ok { s with localPort := some port }

/-- A socket, the events it caused and the result of the operation. -/
structure Outcome where
  socket : VirtualSocket
  events : List Event := []
  result : Except RelayError Unit := .ok ()

variable [OperatingSystem κ]

def rearm (s : VirtualSocket) : Action κ (Except RelayError Unit) :=
  match s.descriptor with
  | some d => Reactor.setInterest d s.interest
  | none => return .ok ()

/-- Close the socket: its registration goes first, then its descriptor. Closing again does
nothing. -/
def close (s : VirtualSocket) : Action κ VirtualSocket := do
  if s.closed then return s
  match s.descriptor with
  | none => pure ()
  | some d =>
    let _ ← Reactor.unregister d
    perform (.close d)
  return { s with
    descriptor := none, token := none, connectStarted := none, connected := false
    outbound := [], closed := true }

def failConnect (s : VirtualSocket) : Action κ (VirtualSocket × List Event) := do
  return (← s.close, [.connected s.id false])

/-- Report the end of the socket and close. A closed socket has reported its end already. -/
def peerGone (s : VirtualSocket) : Action κ (VirtualSocket × List Event) := do
  if s.closed then return (s, [])
  return (← s.close, [.closed s.id])

/-- Give up a descriptor that never got as far as the socket. -/
def discard (d : Descriptor) (operation : String) (e : Errno) :
    Action κ (Except RelayError Descriptor) := do
  perform (.close d)
  return .error (.io operation e)

/-- Let a port be taken again right after it was given up, unless the system chooses it anyway. -/
def allowReuse (d : Descriptor) (port : Port) : Action κ (Except Errno Unit) :=
  if port = 0 then return .ok () else perform (.setReuseAddress d)

/-- Open the real socket and bind it to the recorded port. -/
def createReal (s : VirtualSocket) : Action κ (Except RelayError Descriptor) := do
  match ← perform (.openSocket s.kind) with
  | .error e => return .error (.io "socket" e)
  | .ok d =>
    let port := s.localPort.getD 0
    match ← allowReuse d port with
    | .error e => discard d "setsockopt" e
    | .ok _ =>
      match ← perform (.bindAny d port) with
      | .error e => discard d "bind" e
      | .ok _ => return .ok d

/-- Register the real socket and take it over. A descriptor that cannot be registered is closed. -/
def attach (s : VirtualSocket) (ctx : SocketContext) (d : Descriptor) :
    Action κ (Except RelayError VirtualSocket) := do
  match ← Reactor.register d s.id ctx.mailbox s.interest with
  | .error e =>
    perform (.close d)
    return .error e
  | .ok token => return .ok { s with descriptor := some d, token := some token }

/-- A failed connect with the error that the request gets. -/
def connectFailed (s : VirtualSocket) (e : RelayError) : Action κ Outcome := do
  let (s, events) ← s.failConnect
  return { socket := s, events, result := .error e }

/-- The socket whose connect has been issued: it has succeeded at once or is pending. -/
def issued (s : VirtualSocket) (now : Nat) : ConnectStatus → VirtualSocket
  | .connected => { s with connected := true }
  | .inProgress => { s with connectStarted := some now }

def issuedEvents (s : VirtualSocket) : ConnectStatus → List Event
  | .connected => [.connected s.id true]
  | .inProgress => []

/-- Connect the real socket and register it. Registration waits until the connect has been issued,
since an unconnected stream counts as hung up. -/
def connectReal (s : VirtualSocket) (ctx : SocketContext) (d : Descriptor)
    (destination : Endpoint4) : Action κ Outcome := do
  match ConnectStatus.ofAnswer (← perform (.connect d destination)) with
  | .error e =>
    perform (.close d)
    s.connectFailed (.io "connect" e)
  | .ok status =>
    let issued := s.issued (← get).now status
    match ← issued.attach ctx d with
    | .error e => issued.connectFailed e
    | .ok attached => return { socket := attached, events := s.issuedEvents status }

/-- Begin a TCP connect. Its outcome is an event, now or later. -/
def connect (s : VirtualSocket) (ctx : SocketContext) (address : Bytes) (port : Port) :
    Action κ Outcome := do
  if s.kind ≠ .tcp then return { socket := s, result := .error (.wrongKind "connect" s.kind) }
  if s.isConnecting then return { socket := s, result := .error (.alreadyConnecting s.id) }
  if s.descriptor.isSome ∨ s.closed then
    return { socket := s, result := .error (.alreadyConnected s.id) }
  match resolveDestination address port ctx.settings.resolver with
  | .error e => return { socket := s, result := .error e }
  | .ok destination =>
    match ← s.createReal with
    | .error e => s.connectFailed e
    | .ok d => s.connectReal ctx d destination

/-- Fail a connect that has been pending for the given time. Says whether it did. -/
def expireConnect (s : VirtualSocket) (now timeout : Nat) :
    Action κ (VirtualSocket × List Event × Bool) := do
  match s.connectStarted with
  | some started =>
    if timeout ≤ now - started then
      let (s, events) ← s.failConnect
      return (s, events, true)
    else return (s, [], false)
  | none => return (s, [], false)

/-- The number of bytes that the system takes at once. Nothing overtakes a pending connect or bytes
that wait already. -/
def writeNow (s : VirtualSocket) (d : Descriptor) (data : Bytes) :
    Action κ (Except RelayError Nat) := do
  if s.isConnecting ∨ s.outbound ≠ [] then return .ok 0
  match ← perform (.send d data) with
  | .ok n => return .ok n
  | .error e => if e.wouldBlock then return .ok 0 else return .error (.io "send" e)

/-- Keep bytes for later, as far as the limit allows. The first bytes that have to wait make the
socket listen for room. -/
def enqueue (s : VirtualSocket) (ctx : SocketContext) (rest : Bytes) : Action κ Outcome := do
  let limit := ctx.settings.sendQueueLimit
  if limit < s.outbound.length + rest.length then
    return { socket := s, result := .error (.backpressure s.id s.outbound.length limit) }
  let queued := { s with outbound := s.outbound ++ rest }
  if s.outbound.isEmpty then
    return { socket := queued, result := ← queued.rearm }
  return { socket := queued }

/-- Write on a TCP connection. What the system does not take at once is kept. -/
def send (s : VirtualSocket) (ctx : SocketContext) (data : Bytes) : Action κ Outcome := do
  if s.kind ≠ .tcp then return { socket := s, result := .error (.wrongKind "send" s.kind) }
  match s.live? with
  | none => return { socket := s, result := .error (.notConnected s.id) }
  | some d =>
    match ← s.writeNow d data with
    | .error e => return { socket := s, result := .error e }
    | .ok written =>
      if written = data.length then return { socket := s }
      s.enqueue ctx (data.drop written)

/-- The socket with a real one behind it, opened if there is none yet. -/
def openDatagram (s : VirtualSocket) (ctx : SocketContext) :
    Action κ (Except RelayError VirtualSocket) := do
  match s.descriptor with
  | some _ => return .ok s
  | none =>
    match ← s.createReal with
    | .error e => return .error e
    | .ok d => s.attach ctx d

/-- Send one datagram. The real socket is opened at the first one and stays open even if the
datagram then fails. -/
def sendto (s : VirtualSocket) (ctx : SocketContext) (address : Bytes) (port : Port)
    (data : Bytes) : Action κ Outcome := do
  if s.kind ≠ .udp then return { socket := s, result := .error (.wrongKind "sendto" s.kind) }
  if s.closed then return { socket := s, result := .error (.notConnected s.id) }
  match resolveDestination address port ctx.settings.resolver with
  | .error e => return { socket := s, result := .error e }
  | .ok destination =>
    match ← s.openDatagram ctx with
    | .error e => return { socket := s, result := .error e }
    | .ok opened =>
      match opened.descriptor with
      | none => return { socket := opened, result := .error (.notConnected s.id) }
      | some d =>
        match ← perform (.sendTo d data destination) with
        | .ok _ => return { socket := opened }
        | .error e => return { socket := opened, result := .error (.io "sendto" e) }

/-- Write bytes until none are left or the system takes no more. Returns what is left; an error
that is more than having to wait ends the writing.

A send that took no byte ends the writing too, with everything still left. The system does not
answer so when there are bytes to send; where it did, writing again could go on for ever. -/
def flush (d : Descriptor) (data : Bytes) : Action κ (Except Errno Bytes) := do
  if h : data = [] then return .ok []
  else
    match ← perform (.send d data) with
    | .ok n =>
      if hn : n = 0 then return .ok data
      else
        have : (data.drop n).length < data.length := by
          have := List.length_pos_iff.2 h
          simp only [List.length_drop]
          omega
        flush d (data.drop n)
    | .error e => if e.wouldBlock then return .ok data else return .error e
termination_by data.length

/-- The pending error of a real socket, if there is one and it can be asked for. -/
def pendingError (d : Descriptor) : Action κ (Option Errno) := do
  match ← perform (.takeError d) with
  | .ok e => return e
  | .error _ => return none

/-- The error phase: a pending connect has failed, any other error is only cleared. -/
def onError (s : VirtualSocket) : Action κ (VirtualSocket × List Event) := do
  match s.live? with
  | none => return (s, [])
  | some d =>
    let _ ← pendingError (κ := κ) d
    if s.isConnecting then s.failConnect else return (s, [])

/-- Decide a pending connect at room to write: without a pending error it has succeeded. -/
def settleConnect (s : VirtualSocket) (d : Descriptor) : Action κ (VirtualSocket × List Event) := do
  if s.isConnecting then
    match ← pendingError (κ := κ) d with
    | some _ => s.failConnect
    | none =>
      return ({ s with connectStarted := none, connected := true }, [.connected s.id true])
  else return (s, [])

/-- Write what waits. A failure ends the socket. -/
def flushOutbound (s : VirtualSocket) : Action κ (VirtualSocket × List Event) := do
  match s.live? with
  | none => return (s, [])
  | some d =>
    match ← flush (κ := κ) d s.outbound with
    | .ok rest => return ({ s with outbound := rest }, [])
    | .error _ => s.peerGone

/-- The write phase: decide a pending connect, then write what waits. -/
def onWritable (s : VirtualSocket) : Action κ (VirtualSocket × List Event) := do
  match s.live? with
  | none => return (s, [])
  | some d =>
    let (s, settled) ← s.settleConnect d
    let (s, flushed) ← s.flushOutbound
    return (s, settled ++ flushed)

/-- The read phase: one read. No data from a stream is its end; having to wait is nothing. -/
def onReadable (s : VirtualSocket) (ctx : SocketContext) :
    Action κ (VirtualSocket × List Event) := do
  match s.live? with
  | none => return (s, [])
  | some d =>
    match ← perform (.recv d ctx.settings.recvBuffer) with
    | .ok data =>
      if data.isEmpty ∧ s.kind = .tcp then s.peerGone
      else return (s, [.recv s.id data])
    | .error e => if e.wouldBlock then return (s, []) else s.peerGone

/-- The last phase: a hangup ends the socket, anything else listens again. -/
def onHangup (s : VirtualSocket) (hangup : Bool) : Action κ (VirtualSocket × List Event) := do
  match s.live? with
  | none => return (s, [])
  | some _ =>
    if hangup then s.peerGone
    else
      match ← s.rearm with
      | .ok _ => return (s, [])
      | .error _ => s.peerGone

/-- A phase that runs only if its condition was observed. -/
def ifObserved (s : VirtualSocket) (observed : Bool)
    (phase : Action κ (VirtualSocket × List Event)) : Action κ (VirtualSocket × List Event) :=
  if observed then phase else return (s, [])

def handleReady (s : VirtualSocket) (ctx : SocketContext) (ready : Interest) :
    Action κ (VirtualSocket × List Event) := do
  let (s, failed) ← s.ifObserved ready.error s.onError
  let (s, written) ← s.ifObserved ready.write s.onWritable
  let (s, received) ← s.ifObserved ready.read (s.onReadable ctx)
  let (s, ended) ← s.onHangup ready.hangup
  return (s, failed ++ written ++ received ++ ended)

end VirtualSocket

end SocketRelay
