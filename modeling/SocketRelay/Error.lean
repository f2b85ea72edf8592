import SocketRelay.Protocol.Error
import SocketRelay.System.Errno

/-!
# Refusals and failures

Why a session, a virtual socket or the reactor does not do what it was asked. Nothing here ends a
session: a request that fails is logged by its category and forgotten.
-/
namespace SocketRelay

/-- The broad class of an error, which decides how loudly it is logged. -/
inductive ErrorCategory where
  /-- The frame makes no sense. -/
  | protocol
  /-- A limit is reached or an identifier is taken. -/
  | resourceLimit
  /-- The operation does not fit the socket's transport or state. -/
  | usage
  /-- The operating system failed. -/
  | io
  deriving DecidableEq, Repr

def ErrorCategory.name : ErrorCategory → String
  | protocol => "Protocol"
  | resourceLimit => "ResourceLimit"
  | usage => "Usage"
  | io => "Io"

/-- An error with what is known about it. -/
inductive RelayError where
  | wire (cause : Protocol.WireError)
  | tooManySockets (limit : Nat)
  | unsupportedKind (kind : Int64)
  | duplicateId (socket : SocketId)
  | backpressure (socket : SocketId) (queued limit : Nat)
  | wrongKind (operation : String) (kind : SocketKind)
  | alreadyBound (socket : SocketId)
  | alreadyConnected (socket : SocketId)
  | alreadyConnecting (socket : SocketId)
  | notConnected (socket : SocketId)
  | badAddress (length : Nat)
  | io (operation : String) (errno : Errno)
  | spawn (reason : String)
  deriving DecidableEq, Repr

namespace RelayError

def category : RelayError → ErrorCategory
  | wire _ => .protocol
  | tooManySockets _ | unsupportedKind _ | duplicateId _ | backpressure _ _ _ => .resourceLimit
  | wrongKind _ _ | alreadyBound _ | alreadyConnected _ | alreadyConnecting _ | notConnected _
  | badAddress _ => .usage
  | io _ _ | spawn _ => .io

def message : RelayError → String
  | wire cause => cause.message
  | tooManySockets limit => s!"too many sockets (limit {limit})"
  | unsupportedKind kind => s!"unsupported socket kind: {kind.toInt}"
  | duplicateId socket => s!"socket id already exists: {socket.toInt}"
  | backpressure socket queued limit =>
    s!"send queue full on socket {socket.toInt}: {queued} queued, limit {limit}"
  | wrongKind operation kind =>
    "`" ++ operation ++ "` is not supported on a " ++ kind.name ++ " socket"
  | alreadyBound socket => s!"socket {socket.toInt} is already bound"
  | alreadyConnected socket => s!"socket {socket.toInt} already has a connection"
  | alreadyConnecting socket => s!"socket {socket.toInt} is already connecting"
  | notConnected socket => s!"socket {socket.toInt} is not connected"
  | badAddress length => s!"malformed IPv4 address ({length} bytes)"
  | io operation errno => operation ++ " failed: " ++ errno.message
  | spawn reason => "reactor thread: " ++ reason

end RelayError

end SocketRelay
