import SocketRelay.Protocol.Request
import SocketRelay.Session.Notice
import SocketRelay.Socket.Virtual

/-!
# Sessions

One session for each client. It holds the client's virtual sockets under the numbers that the client
chose, carries out requests, handles the readiness notes in its mailbox, and answers with frames,
one for each event. A socket that has closed itself leaves the table at once, and its number may be
used again.

Nothing that a client sends ends its session. Requests that name no socket of the session are
ignored. A closed session holds no socket, and frames, notes and expiry change nothing in it.

Every operation returns the session as it is afterwards together with what it wrote: frames and
notices, in order. The frames go to the session's writer, which is nobody else's. An operation that
walks over all sockets is given the order in which it comes by them.
-/
namespace SocketRelay
open Protocol (Event Request)

/-- The number of a writer within a relay. -/
abbrev WriterId := Nat

/-- An order in which a session visits its sockets. -/
abbrev SocketOrder := Table.Order SocketId VirtualSocket

/-- A client's sockets and what the session needs to serve them. -/
structure Session where
  id : SessionId
  mailbox : MailboxId
  /-- Where the frames for the client go. -/
  writer : WriterId
  settings : Settings
  sockets : Table SocketId VirtualSocket := Table.empty
  closed : Bool := false

namespace Session
variable {κ : Type}

/-- What an operation on a session leaves and writes. -/
structure Reply where
  session : Session
  frames : List Bytes := []
  notices : List Notice := []

/-- What carrying out a request leaves, causes and results in. -/
structure Dispatched where
  session : Session
  events : List Event := []
  notices : List Notice := []
  result : Except RelayError Unit := .ok ()

def context (s : Session) : SocketContext := ⟨s.mailbox, s.settings⟩

def socketCount (s : Session) : Nat := s.sockets.size

/-- The state of a socket, if the session has it. -/
def socketState? (s : Session) (id : SocketId) : Option SocketState :=
  (s.sockets.get? id).map VirtualSocket.state

def text (s : Session) : String :=
  s!"Session \x7b id: {s.id.toNat}, sockets: {s.socketCount}, closed: {s.closed} \x7d"

def store (s : Session) (id : SocketId) (socket : VirtualSocket) : Session :=
  { s with sockets := s.sockets.insert id socket }

def reap (s : Session) : Session :=
  { s with sockets := s.sockets.filter fun _ socket => !socket.closed }

/-- The frames of events, in order, and a notice for each event that is too long for one. -/
def emit : List Event → List Bytes × List Notice
  | [] => ([], [])
  | e :: rest =>
    let (frames, notices) := emit rest
    match e.encode with
    | .ok frame => (frame :: frames, notices)
    | .error cause => (frames, .unwritable cause :: notices)

/-- The session after some events, with their frames behind the notices so far. -/
def reply (s : Session) (notices : List Notice) (events : List Event) : Reply :=
  let (frames, unwritable) := emit events
  { session := s, frames, notices := notices ++ unwritable }

def refusal : Except RelayError Unit → List Notice
  | .ok _ => []
  | .error e => [.refused e]

def onOpen (s : Session) : Reply := { session := s, notices := [.opened] }

/-- Open a virtual socket. The limit is checked first, then the transport, then the number. -/
def openSocket (s : Session) (id : SocketId) (kind : Int64) : Dispatched :=
  if s.settings.maxSockets ≤ s.socketCount then
    { session := s, result := .error (.tooManySockets s.settings.maxSockets) }
  else
    match SocketKind.ofWire? kind with
    | none => { session := s, result := .error (.unsupportedKind kind) }
    | some kind =>
      if s.sockets.contains id then { session := s, result := .error (.duplicateId id) }
      else { session := s.store id { id, kind }, notices := [.allocated] }

def bindSocket (s : Session) (id : SocketId) (port : Port) : Dispatched :=
  match s.sockets.get? id with
  | none => { session := s, notices := [.unknownSocket] }
  | some socket =>
    match socket.bind port with
    | .ok bound => { session := s.store id bound, notices := [.bound] }
    | .error e => { session := s, result := .error e }

variable [OperatingSystem κ]

/-- Close a socket at the client's wish and forget it. -/
def closeSocket (s : Session) (id : SocketId) : Action κ Dispatched := do
  match s.sockets.get? id with
  | none => return { session := s, notices := [.closeOfUnknown] }
  | some socket =>
    let _ ← socket.close
    return { session := { s with sockets := s.sockets.erase id } }

/-- Run an operation on a socket of the session. A number that is not in use is ignored. -/
def withSocket (s : Session) (id : SocketId)
    (operation : VirtualSocket → Action κ VirtualSocket.Outcome) : Action κ Dispatched := do
  match s.sockets.get? id with
  | none => return { session := s, notices := [.unknownSocket] }
  | some socket =>
    let outcome ← operation socket
    return {
      session := s.store id outcome.socket
      events := outcome.events
      result := outcome.result }

/-- Carry out a request, before closed sockets are dropped. -/
def carryOut (s : Session) : Request → Action κ Dispatched
  | .socket id kind => return s.openSocket id kind
  | .socketClose id => s.closeSocket id
  | .bind id port => return s.bindSocket id port
  | .connect id address port => s.withSocket id fun socket => socket.connect s.context address port
  | .send id data => s.withSocket id fun socket => socket.send s.context data
  | .sendto id address port data =>
    s.withSocket id fun socket => socket.sendto s.context address port data

def dispatch (s : Session) (request : Request) : Action κ Dispatched := do
  let done ← s.carryOut request
  return { done with session := done.session.reap }

def onMessage (s : Session) (frame : Bytes) : Action κ Reply := do
  if s.closed then return { session := s }
  match Request.decode frame with
  | .error cause => return { session := s, notices := [.malformed cause] }
  | .ok request =>
    let done ← s.dispatch request
    return done.session.reply (done.notices ++ refusal done.result) done.events

/-- Handle one readiness note. A note for another registration than the socket's present one is
dropped. -/
def onReady (s : Session) (ready : Readiness) : Action κ Reply := do
  if s.closed then return { session := s }
  match s.sockets.get? ready.socket with
  | none => return { session := s }
  | some socket =>
    if socket.token = some ready.token then
      let (socket, events) ← socket.handleReady s.context ready.events
      return (s.store ready.socket socket).reap.reply [] events
    else return { session := s }

/-- Handle up to a number of notes from the mailbox. Returns the number handled. -/
def drainUpTo (s : Session) : (most : Nat) → Action κ (Reply × Nat)
  | 0 => return ({ session := s }, 0)
  | most + 1 => do
    match ← takeNote s.mailbox with
    | none => return ({ session := s }, 0)
    | some ready =>
      let first ← s.onReady ready
      let (rest, handled) ← first.session.drainUpTo most
      return (
        { session := rest.session
          frames := first.frames ++ rest.frames
          notices := first.notices ++ rest.notices },
        handled + 1)

/-- Handle all notes in the mailbox. Handling one posts none, so their number is known from the
start. -/
def drainMailbox (s : Session) : Action κ (Reply × Nat) := do
  s.drainUpTo ((← get).mailbox s.mailbox).queue.length

/-- Fail the pending connects among some sockets that are as old as the timeout. Returns the
sockets, the events and the number of connects failed. -/
def expireAll (now timeout : Nat) :
    List (SocketId × VirtualSocket) → Session → Action κ (Session × List Event × Nat)
  | [], s => return (s, [], 0)
  | (id, socket) :: rest, s => do
    let (socket, events, expired) ← socket.expireConnect now timeout
    let (s, later, count) ← expireAll now timeout rest (s.store id socket)
    return (s, events ++ later, (if expired then 1 else 0) + count)

/-- Fail the connects that have been pending for too long. Returns their number. -/
def expireStalledConnects (s : Session) (now : Nat) (order : SocketOrder) :
    Action κ (Reply × Nat) := do
  match s.settings.connectTimeout with
  | none => return ({ session := s }, 0)
  | some timeout =>
    let (after, events, expired) ← expireAll now timeout (order.visit s.sockets) s
    if expired = 0 then return ({ session := s }, 0)
    return (after.reap.reply [] events, expired)

def closeAll : List VirtualSocket → Action κ Unit
  | [] => return
  | socket :: rest => do
    let _ ← socket.close
    closeAll rest

def discardNotes (s : Session) : Action κ Unit := modify fun w =>
  { w with mailboxes := w.mailboxes.insert s.mailbox { w.mailbox s.mailbox with queue := [] } }

/-- Close every socket and forget what waits in the mailbox. Writes no frame. Closing again does
nothing. -/
def close (s : Session) (order : SocketOrder) : Action κ Reply := do
  if s.closed then return { session := s }
  closeAll ((order.visit s.sockets).map Prod.snd)
  s.discardNotes
  return {
    session := { s with sockets := Table.empty, closed := true }
    notices := [.closed] }

def onClose (s : Session) (order : SocketOrder) : Action κ Reply := s.close order

/-- Give back the descriptors of sockets, whatever the reactor knows of them. -/
def giveBack : List VirtualSocket → Action κ Unit
  | [] => return
  | socket :: rest => do
    match socket.descriptor with
    | none => pure ()
    | some d => perform (.close d)
    giveBack rest

/-- Let go of the session. It is closed; a socket that was opened after an earlier close is not, and
only its descriptor is given back. -/
def release (s : Session) (order : SocketOrder) : Action κ Reply := do
  let reply ← s.close order
  giveBack ((order.visit reply.session.sockets).map Prod.snd)
  return { reply with session := { reply.session with sockets := Table.empty } }

end Session

/-- The numbers of sessions, in the order in which they are handed out. -/
structure SessionIds where
  issued : UInt64 := 0
  deriving DecidableEq, Repr

namespace SessionIds

/-- The next number. The first is one. -/
def next (ids : SessionIds) : SessionId × SessionIds := (ids.issued + 1, ⟨ids.issued + 1⟩)

def take (ids : SessionIds) : Nat → List SessionId
  | 0 => []
  | n + 1 =>
    let (id, ids) := ids.next
    id :: ids.take n

end SessionIds

end SocketRelay
