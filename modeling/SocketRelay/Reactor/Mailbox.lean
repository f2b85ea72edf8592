import SocketRelay.Reactor.Interest
import SocketRelay.Reactor.Token

/-!
# Mailboxes

A bounded queue of readiness notes for one session. The reactor posts at the end, the session takes
from the front. Every accepted note wakes the session once; a note that does not fit is handed back
and wakes nobody. A mailbox has room for one note at least.

The queue is a library's, made for many threads. `post?` and `pop?` are what is relied on in it:
notes are taken in the order in which they were added, a queue is full exactly if it holds as many
as its capacity, and adding and taking happen at one instant each, so that only their order counts.
-/
namespace SocketRelay

structure Readiness where
  socket : SocketId
  token : Token
  events : Interest
  deriving DecidableEq, Repr, Inhabited

/-- A queue of notes with the number of wake-ups it has caused. -/
structure Mailbox where
  capacity : Nat
  queue : List Readiness := []
  wakes : Nat := 0
  deriving DecidableEq, Repr

namespace Mailbox

instance : Inhabited Mailbox := ⟨{ capacity := 1 }⟩

/-- An empty mailbox for this many notes, or for one. -/
def ofCapacity (n : Nat) : Mailbox := { capacity := max n 1 }

def isFull (m : Mailbox) : Bool := m.capacity ≤ m.queue.length

/-- Add a note at the end, if there is room. -/
def post? (m : Mailbox) (r : Readiness) : Option Mailbox :=
  if m.isFull then none else some { m with queue := m.queue ++ [r], wakes := m.wakes + 1 }

def pop? (m : Mailbox) : Option (Readiness × Mailbox) :=
  match m.queue with
  | [] => none
  | r :: rest => some (r, { m with queue := rest })

def text (m : Mailbox) : String :=
  "Mailbox \x7b pending: " ++ toString m.queue.length ++ ", capacity: " ++ toString m.capacity ++
    " \x7d"

end Mailbox

end SocketRelay
