/-!
# Kinds and names of virtual sockets

A client names its sockets by numbers of its own choice and fixes the transport of each when it
opens it. The wire carries the transport as an integer.
-/
namespace SocketRelay

/-- The number by which a client names one of its sockets. -/
abbrev SocketId := Int64

/-- The number of a session within the relay. -/
abbrev SessionId := UInt64

abbrev Port := UInt16

inductive SocketKind where
  | tcp
  | udp
  deriving DecidableEq, Repr, Inhabited

namespace SocketKind

/-- The transport that an integer on the wire stands for. -/
def ofWire? (n : Int64) : Option SocketKind :=
  if n = 0 then some tcp else if n = 1 then some udp else none

/-- The integer for a transport on the wire. -/
def toWire : SocketKind → Int64
  | tcp => 0
  | udp => 1

def name : SocketKind → String
  | tcp => "tcp"
  | udp => "udp"

end SocketKind

end SocketRelay
