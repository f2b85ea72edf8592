import SocketRelay.Error
import SocketRelay.System.World

/-!
# The reactor

The reactor keeps one registration for each watched descriptor and turns the system's reports into
notes in the mailboxes of their owners. A registration is good for one report; after that the
descriptor is silent until its interest is set again.

A report counts only if it carries the token of the present registration of its descriptor: one
that was meant for an earlier registration is dropped. A note that finds its mailbox full is not
lost either, since the registration is armed again and reports once more.

Table and interest list change together. A call that the system refuses leaves the table as it was,
except that a removed registration is gone whatever the system says.
-/
namespace SocketRelay.Reactor
variable {κ : Type}

/-- A reactor that takes up to this many reports at a time, and at least one. -/
def ofMaxEvents (n : Nat) : Reactor := { maxEvents := max n 1 }

def registered (r : Reactor) : Nat := r.table.size

def modifyTable (f : Table Descriptor Registration → Table Descriptor Registration) :
    Action κ Unit :=
  modify fun w => { w with reactor := { w.reactor with table := f w.reactor.table } }

/-- The next generation. It is used up even if the registration then fails. -/
def drawGeneration : Action κ UInt32 := fun w =>
  (w.reactor.nextGeneration,
    { w with reactor := { w.reactor with nextGeneration := w.reactor.nextGeneration + 1 } })

variable [OperatingSystem κ]

/-- Ask for the interest list that the reactor works with. -/
def acquire : Action κ (Except RelayError Unit) := do
  match ← perform .epollCreate with
  | .ok _ => return .ok ()
  | .error e => return .error (.io "epoll_create1" e)

/-- Watch a descriptor for a socket, whose notes go to a mailbox. -/
def register (d : Descriptor) (socket : SocketId) (mailbox : MailboxId) (interest : Interest) :
    Action κ (Except RelayError Token) := do
  let generation ← drawGeneration
  let token := Token.pack d generation
  match ← perform (.epollAdd d interest.toEpoll token) with
  | .error e => return .error (.io "epoll_ctl(ADD)" e)
  | .ok _ =>
    modifyTable fun t => t.insert d { token, socket, interest, mailbox }
    return .ok token

/-- Set the interest of a registration and arm it. -/
def setInterest (d : Descriptor) (interest : Interest) : Action κ (Except RelayError Unit) := do
  match (← get).reactor.table.get? d with
  | none => return .error (.io "epoll_ctl(MOD)" Errno.noEntry)
  | some registration =>
    match ← perform (.epollModify d interest.toEpoll registration.token) with
    | .error e => return .error (.io "epoll_ctl(MOD)" e)
    | .ok _ =>
      modifyTable fun t => t.insert d { registration with interest }
      return .ok ()

/-- Stop watching a descriptor. One that is not watched, or that the system no longer knows, is no
error. -/
def unregister (d : Descriptor) : Action κ (Except RelayError Unit) := do
  match (← get).reactor.table.get? d with
  | none => return .ok ()
  | some _ =>
    modifyTable fun t => t.erase d
    match ← perform (.epollRemove d) with
    | .ok _ => return .ok ()
    | .error e =>
      if e = Errno.noEntry ∨ e = Errno.badDescriptor then return .ok ()
      else return .error (.io "epoll_ctl(DEL)" e)

/-- Arm a registration whose note could not be posted. A failure is not reported. -/
def rearm (token : Token) : Action κ Unit := do
  match (← get).reactor.table.get? token.descriptor with
  | none => return
  | some registration =>
    if registration.token = token then
      let _ ← perform (.epollModify token.descriptor registration.interest.toEpoll token)

/-- The mailbox and the note that a report stands for, if its token is current. -/
def note? (t : Table Descriptor Registration) (report : UInt32 × Token) :
    Option (MailboxId × Readiness) :=
  match t.get? report.2.descriptor with
  | none => none
  | some registration =>
    if registration.token = report.2 then
      some (registration.mailbox, ⟨registration.socket, report.2, Interest.ofEpoll report.1⟩)
    else none

/-- Post notes in order; those that do not fit have their registrations armed again. Returns the
number posted. -/
def deliver : List (MailboxId × Readiness) → Action κ Nat
  | [] => return 0
  | (mailbox, r) :: rest => do
    if ← post mailbox r then
      return (← deliver rest) + 1
    else
      rearm r.token
      deliver rest

/-- Take the reports that are there and deliver them. An interrupted wait delivers nothing. -/
def pollOnce : Action κ (Except RelayError Nat) := do
  match ← perform (.epollWait (← get).reactor.maxEvents) with
  | .error e => if e = Errno.interrupted then return .ok 0 else return .error (.io "epoll_wait" e)
  | .ok reports =>
    let table := (← get).reactor.table
    return .ok (← deliver (reports.filterMap (note? table)))

end SocketRelay.Reactor
