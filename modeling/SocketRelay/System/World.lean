import SocketRelay.Reactor.Mailbox
import SocketRelay.System.Call
import SocketRelay.Table

/-!
# The shared world of a relay

What all sessions of one relay share: the operating system, the reactor's registrations, the
mailboxes and the clock. The world also keeps every call with its answer, newest first, so that
what the system was asked, which descriptors it has handed out and what it was told to watch can be
read off the world itself.

An action is a step of the relay in its world. Sessions and sockets are values of their own and not
part of the world.
-/
namespace SocketRelay

/-- The number of a mailbox within a relay. -/
abbrev MailboxId := Nat

/-- One descriptor under watch: its token, whom it belongs to, what is listened for. -/
structure Registration where
  token : Token
  socket : SocketId
  interest : Interest
  mailbox : MailboxId
  deriving DecidableEq, Repr

/-- The registrations of all sessions. Generations are handed out in order and wrap around. -/
structure Reactor where
  table : Table Descriptor Registration := Table.empty
  nextGeneration : UInt32 := 1
  maxEvents : Nat

structure World (κ : Type) where
  system : κ
  reactor : Reactor
  mailboxes : Table MailboxId Mailbox := Table.empty
  history : List Exchange := []
  /-- The present instant in milliseconds. -/
  now : Nat := 0

abbrev Action (κ α : Type) := StateM (World κ) α

variable {κ : Type}

def perform [OperatingSystem κ] (call : Call) : Action κ call.Answer := fun w =>
  let (answer, system) := OperatingSystem.respond w.system call
  (answer, { w with system, history := ⟨call, answer⟩ :: w.history })

/-- The mailbox of a number; a number not yet used stands for an empty one. -/
def World.mailbox (w : World κ) (id : MailboxId) : Mailbox := (w.mailboxes.get? id).getD default

/-- Post a note. Says whether it fitted. -/
def post (id : MailboxId) (r : Readiness) : Action κ Bool := fun w =>
  match (w.mailbox id).post? r with
  | some m => (true, { w with mailboxes := w.mailboxes.insert id m })
  | none => (false, w)

def takeNote (id : MailboxId) : Action κ (Option Readiness) := fun w =>
  match (w.mailbox id).pop? with
  | some (r, m) => (some r, { w with mailboxes := w.mailboxes.insert id m })
  | none => (none, w)

end SocketRelay
