/-!
# Readiness masks

Four conditions of a descriptor: it can be read, it can be written, its peer hung up, it has an
error. The same mask says what a socket wants to hear about and what was observed. Watching for
hangups and errors is not optional, so only reading and writing are passed on when a descriptor is
registered; all four are recognised in what the system reports.
-/
namespace SocketRelay

structure Interest where
  read : Bool := false
  write : Bool := false
  hangup : Bool := false
  error : Bool := false
  deriving DecidableEq, Repr, Inhabited

namespace Interest

def empty : Interest := {}

def union (a b : Interest) : Interest :=
  ⟨a.read || b.read, a.write || b.write, a.hangup || b.hangup, a.error || b.error⟩

def isEmpty (a : Interest) : Bool := a = empty

/-- Does a mask hold all conditions of another one, which has at least one? -/
def contains (a b : Interest) : Bool :=
  !b.isEmpty && (a.read || !b.read) && (a.write || !b.write) && (a.hangup || !b.hangup) &&
    (a.error || !b.error)

def names (a : Interest) : List String :=
  (if a.read then ["READ"] else []) ++ (if a.write then ["WRITE"] else []) ++
    (if a.hangup then ["HANGUP"] else []) ++ (if a.error then ["ERROR"] else [])

def text (a : Interest) : String := if a.isEmpty then "NONE" else "|".intercalate a.names

end Interest

namespace EpollBits

def input : UInt32 := 0x001
def urgent : UInt32 := 0x002
def output : UInt32 := 0x004
def error : UInt32 := 0x008
def hangup : UInt32 := 0x010
/-- One report, then silence until the registration is renewed. -/
def oneShot : UInt32 := 0x40000000

def meets (a b : UInt32) : Bool := a &&& b ≠ 0

end EpollBits

namespace Interest

/-- The bits of a one-shot registration with this interest. -/
def toEpoll (a : Interest) : UInt32 :=
  EpollBits.oneShot ||| (if a.read then EpollBits.input else 0) |||
    (if a.write then EpollBits.output else 0)

def ofEpoll (bits : UInt32) : Interest where
  read := EpollBits.meets bits (EpollBits.input ||| EpollBits.urgent)
  write := EpollBits.meets bits EpollBits.output
  hangup := EpollBits.meets bits EpollBits.hangup
  error := EpollBits.meets bits EpollBits.error

end Interest

end SocketRelay
