import SocketRelay.Address.Ipv4
import SocketRelay.Reactor.Token
import SocketRelay.System.Errno
import SocketRelay.Bytes.Word

/-!
# System calls

What the relay asks of the operating system, and what each call may answer. Sockets are IPv4 and
never block. The system itself is a parameter of everything above: any state with a response to
every call. What is assumed of it is said where it is needed, about the calls and answers that took
place.
-/
namespace SocketRelay

inductive Call where
  /-- A new non-blocking socket. -/
  | openSocket (kind : SocketKind)
  /-- Let the local port be taken again right after it was given up. -/
  | setReuseAddress (descriptor : Descriptor)
  /-- Bind to a port on all interfaces; port zero lets the system choose. -/
  | bindAny (descriptor : Descriptor) (port : Port)
  /-- The local port. -/
  | localPort (descriptor : Descriptor)
  | connect (descriptor : Descriptor) (destination : Endpoint4)
  /-- The pending error, which is cleared by asking. -/
  | takeError (descriptor : Descriptor)
  | send (descriptor : Descriptor) (data : Bytes)
  | sendTo (descriptor : Descriptor) (data : Bytes) (destination : Endpoint4)
  /-- Read into a buffer of some size. -/
  | recv (descriptor : Descriptor) (size : Nat)
  | close (descriptor : Descriptor)
  /-- A new interest list. -/
  | epollCreate
  | epollAdd (descriptor : Descriptor) (bits : UInt32) (token : Token)
  | epollModify (descriptor : Descriptor) (bits : UInt32) (token : Token)
  | epollRemove (descriptor : Descriptor)
  /-- Up to some number of reports. -/
  | epollWait (most : Nat)
  deriving DecidableEq, Repr

/-- What a call answers. A count of bytes sent may be short; bytes received come as data. -/
abbrev Call.Answer : Call → Type
  | openSocket _ => Except Errno Descriptor
  | setReuseAddress _ => Except Errno Unit
  | bindAny _ _ => Except Errno Unit
  | localPort _ => Except Errno Port
  | connect _ _ => Except Errno Unit
  | takeError _ => Except Errno (Option Errno)
  | send _ _ => Except Errno Nat
  | sendTo _ _ _ => Except Errno Nat
  | recv _ _ => Except Errno Bytes
  | close _ => Unit
  | epollCreate => Except Errno Unit
  | epollAdd _ _ _ => Except Errno Unit
  | epollModify _ _ _ => Except Errno Unit
  | epollRemove _ => Except Errno Unit
  | epollWait _ => Except Errno (List (UInt32 × Token))

/-- A call that took place, with its answer. -/
structure Exchange where
  call : Call
  answer : call.Answer

/-- An operating system with states of type `κ`: it answers every call and moves on. -/
class OperatingSystem (κ : Type) where
  respond : κ → (c : Call) → c.Answer × κ

inductive ConnectStatus where
  | connected
  | inProgress
  deriving DecidableEq, Repr

def ConnectStatus.name : ConnectStatus → String
  | connected => "Connected"
  | inProgress => "InProgress"

/-- The status that an answer to a connect means. A connect that has begun, now or before, is in
progress. -/
def ConnectStatus.ofAnswer : Except Errno Unit → Except Errno ConnectStatus
  | .ok _ => .ok connected
  | .error e =>
    if e = Errno.inProgress ∨ e = Errno.already then .ok inProgress else .error e

end SocketRelay
