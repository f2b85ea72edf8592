import SocketRelay.Loopback.Kernel
import SocketRelay.Loopback.Peer
import SocketRelay.Proofs.Session.Operation

/-!
# Runs of a relay

A relay is a world with its sessions; each session has the mailbox and the writer of its own
position. What can happen to a relay is an `Input`: a session is added, one of its operations is
called, the reactor polls, or time passes and the operating system moves on by itself. A run takes
any inputs in any order. Where a session walks over its sockets, the input says in which order.

`step_turn` says what a single step is: a course of one session, a round of the reactor, or a change
that touches neither sockets nor registrations. Invariants of runs follow by induction from it.
-/
namespace SocketRelay
open SocketRelay.Action (Ends)

/-- A frame with the writer that it was given to. -/
structure Outgoing where
  writer : WriterId
  frame : Bytes

/-- The frames that a writer was given. -/
def framesTo (writer : WriterId) (sent : List Outgoing) : List Bytes :=
  (sent.filter fun f => f.writer = writer).map Outgoing.frame

/-- A session gives its frames to its own writer. -/
def Session.outgoing (s : Session) (frames : List Bytes) : List Outgoing :=
  frames.map fun frame => ⟨s.writer, frame⟩

@[simp] theorem framesTo_nil (writer : WriterId) : framesTo writer [] = [] := rfl

theorem framesTo_outgoing (s : Session) (frames : List Bytes) (writer : WriterId) :
    framesTo writer (s.outgoing frames) = if s.writer = writer then frames else [] := by
  induction frames with
  | nil => simp [Session.outgoing]
  | cons frame frames ih =>
    unfold framesTo Session.outgoing at ih ⊢
    by_cases h : s.writer = writer <;> simp_all

@[simp] theorem Session.map_frame_outgoing (s : Session) (frames : List Bytes) :
    (s.outgoing frames).map Outgoing.frame = frames := by
  simp [Session.outgoing, Function.comp_def]

/-- A world with its sessions and the numbers handed out to them. -/
structure Relay (κ : Type) where
  world : World κ
  sessions : List Session := []
  ids : SessionIds := {}

namespace Relay
variable {κ : Type}

/-- What can happen to a relay. Sessions are named by their position. -/
inductive Input (κ : Type) where
  | enter (settings : Settings)
  | frame (session : Nat) (bytes : Bytes)
  | drain (session : Nat)
  | expire (session now : Nat) (order : SocketOrder)
  | leave (session : Nat) (order : SocketOrder)
  | poll
  | elapse (system : κ) (now : Nat)

/-- A relay without sessions that takes up to this many reports at a time. -/
def start (system : κ) (maxEvents : Nat) : Relay κ where
  world := { system, reactor := Reactor.ofMaxEvents maxEvents }

def socket? (r : Relay κ) (i : Nat) (k : SocketId) : Option VirtualSocket :=
  r.sessions[i]?.bind fun s => s.sockets.get? k

def put (r : Relay κ) (i : Nat) (s : Session) (world : World κ) : Relay κ :=
  { r with world, sessions := r.sessions.set i s }

def newcomer (r : Relay κ) (settings : Settings) : Session where
  id := r.ids.next.1
  mailbox := r.sessions.length
  writer := r.sessions.length
  settings := settings

/-- One more session, with an empty mailbox and a writer of its own. -/
def enter (r : Relay κ) (settings : Settings) : Relay κ where
  world := { r.world with
    mailboxes := r.world.mailboxes.insert r.sessions.length
      (Mailbox.ofCapacity settings.mailboxCapacity) }
  sessions := r.sessions ++ [r.newcomer settings]
  ids := r.ids.next.2

/-- An operation of the session at a position, with the frames that it writes. -/
def serve (r : Relay κ) (i : Nat) (operation : Session → Action κ Session.Reply) :
    Relay κ × List Outgoing :=
  match r.sessions[i]? with
  | none => (r, [])
  | some s =>
    let (reply, world) := operation s r.world
    (r.put i reply.session world, s.outgoing reply.frames)

theorem serve_of_session {r : Relay κ} {i : Nat} {s : Session} (h : r.sessions[i]? = some s)
    (operation : Session → Action κ Session.Reply) : r.serve i operation =
      (r.put i (operation s r.world).1.session (operation s r.world).2,
        s.outgoing (operation s r.world).1.frames) := by
  unfold serve
  rw [h]
  rfl

theorem sessions_put {r : Relay κ} {i : Nat} {s s' : Session} {world : World κ}
    (h : r.sessions[i]? = some s) (j : Nat) :
    (r.put i s' world).sessions[j]? = if j = i then some s' else r.sessions[j]? := by
  have hi : i < r.sessions.length := (List.getElem?_eq_some_iff.1 h).1
  simp only [put, List.getElem?_set, eq_comm (a := j), hi, if_true]

theorem sessions_enter (r : Relay κ) (settings : Settings) (j : Nat) :
    (r.enter settings).sessions[j]? =
      if j = r.sessions.length then some (r.newcomer settings) else r.sessions[j]? := by
  unfold enter
  rcases Nat.lt_trichotomy j r.sessions.length with hj | rfl | hj
  · simp [List.getElem?_append_left hj, Nat.ne_of_lt hj]
  · simp
  · have hne : j ≠ r.sessions.length := Nat.ne_of_gt hj
    simp only [hne, if_false, List.getElem?_eq_none (Nat.le_of_lt hj)]
    exact List.getElem?_eq_none (by simp only [List.length_append, List.length_singleton]; omega)

theorem socket?_put {r : Relay κ} {i : Nat} {s s' : Session} {world : World κ}
    (h : r.sessions[i]? = some s) (j : Nat) (k : SocketId) :
    (r.put i s' world).socket? j k = if j = i then s'.sockets.get? k else r.socket? j k := by
  unfold socket?
  rw [sessions_put h]
  split <;> rfl

theorem socket?_store {r : Relay κ} {i : Nat} {s : Session} {world : World κ}
    (h : r.sessions[i]? = some s) (k : SocketId) (v : VirtualSocket) (j : Nat) (m : SocketId) :
    (r.put i (s.store k v) world).socket? j m =
      if j = i ∧ m = k then some v else r.socket? j m := by
  rw [socket?_put h, Session.store, Table.get?_insert]
  split
  · rename_i hj
    simp [hj, socket?, h]
  · rename_i hj
    simp [hj]

theorem socket?_of_session {r : Relay κ} {i : Nat} {s : Session} (h : r.sessions[i]? = some s)
    (k : SocketId) : r.socket? i k = s.sockets.get? k := by
  simp [socket?, h]

theorem socket?_eq_some {r : Relay κ} {i : Nat} {k : SocketId} {v : VirtualSocket} :
    r.socket? i k = some v ↔ ∃ s, r.sessions[i]? = some s ∧ s.sockets.get? k = some v :=
  Option.bind_eq_some_iff

theorem put_put (r : Relay κ) (i : Nat) (s s' : Session) (world world' : World κ) :
    (r.put i s world).put i s' world' = r.put i s' world' := by
  simp [put]

theorem put_same {r : Relay κ} {i : Nat} {s : Session} (h : r.sessions[i]? = some s)
    (world : World κ) : r.put i s world = { r with world } := by
  obtain ⟨hi, hs⟩ := List.getElem?_eq_some_iff.1 h
  simp [put, ← hs]

theorem socket?_enter (r : Relay κ) (settings : Settings) (j : Nat) (k : SocketId) :
    (r.enter settings).socket? j k = r.socket? j k := by
  unfold socket?
  rw [sessions_enter]
  split
  · rename_i hj
    simp [hj, newcomer]
  · rfl

variable [OperatingSystem κ]

/-- One step, with the frames that are written in it. -/
def step (r : Relay κ) : Input κ → Relay κ × List Outgoing
  | .enter settings => (r.enter settings, [])
  | .frame i bytes => r.serve i fun s => s.onMessage bytes
  | .drain i => r.serve i fun s => do return (← s.drainMailbox).1
  | .expire i now order => r.serve i fun s => do return (← s.expireStalledConnects now order).1
  | .leave i order => r.serve i fun s => s.close order
  | .poll => ({ r with world := (Reactor.pollOnce r.world).2 }, [])
  | .elapse system now => ({ r with world := { r.world with system, now } }, [])

def Input.session? : Input κ → Option Nat
  | .frame i _ | .drain i | .expire i _ _ | .leave i _ => some i
  | .enter _ | .poll | .elapse _ _ => none

/-- The input is the client's request for a socket of that number and kind. -/
def Input.Opens (x : Input κ) (i : Nat) (k : SocketId) (kind : SocketKind) : Prop :=
  ∃ bytes code, x = .frame i bytes ∧ Protocol.Request.decode bytes = .ok (.socket k code) ∧
    SocketKind.ofWire? code = some kind

/-- The input asks for the end of a socket: the client closes it, or is gone. -/
def Input.Dismisses (x : Input κ) (i : Nat) (k : SocketId) : Prop :=
  (∃ order, x = .leave i order) ∨
    ∃ bytes, x = .frame i bytes ∧ Protocol.Request.decode bytes = .ok (.socketClose k)

def run (r : Relay κ) : List (Input κ) → Relay κ
  | [] => r
  | x :: xs => (r.step x).1.run xs

/-- The frames that the writer of the session at a position is given in a run. -/
def written (r : Relay κ) (i : Nat) : List (Input κ) → List Bytes
  | [] => []
  | x :: xs => framesTo i (r.step x).2 ++ (r.step x).1.written i xs

@[simp] theorem run_nil (r : Relay κ) : r.run [] = r := rfl
@[simp] theorem run_cons (r : Relay κ) (x : Input κ) (xs : List (Input κ)) :
    r.run (x :: xs) = (r.step x).1.run xs := rfl

theorem run_append (r : Relay κ) (xs ys : List (Input κ)) :
    r.run (xs ++ ys) = (r.run xs).run ys := by
  induction xs generalizing r with
  | nil => rfl
  | cons x xs ih => exact ih _

end Relay

namespace Loopback
open Protocol (Request)
open Relay (Input)

/-- The network with one peer that listens, on port 23911. -/
def listening : Network := ({ up := true } : Network).addPeer "peer" .listener

theorem eq_ok_of_toOption {ε α : Type} {x : Except ε α} {a : α} (h : x.toOption = some a) :
    x = .ok a := by
  cases x with
  | error e => cases h
  | ok b =>
    cases h
    rfl

/-- A request as a frame to the first session. -/
def asks (request : Request) : Input Network := .frame 0 (request.encode.toOption.getD [])

/-- A client comes and opens a stream. -/
def arrival : List (Input Network) := [.enter {}] ++ [asks (.socket 1 0)]

/-- The stream is connected to the peer and written on; the reactor polls in between. -/
def stay : List (Input Network) :=
  [asks (.connect 1 [127, 0, 0, 1] 23911), .poll, .drain 0, asks (.send 1 [104, 105]), .poll,
    .drain 0]

/-- A whole visit, up to the point where the client is about to leave. -/
def visit : List (Input Network) := arrival ++ stay

def arrived : Relay Network := (Relay.start listening 8).run arrival

/-- The client closes its stream. -/
def farewell : Input Network := asks (.socketClose 1)

theorem opensFresh_visit :
    History.OpensFresh ((Relay.start listening 8).run visit).world.history := by
  decide +kernel

theorem modifiesListed_visit :
    History.ModifiesListed ((Relay.start listening 8).run visit).world.history := by
  decide +kernel

theorem opensFresh_farewell :
    History.OpensFresh (arrived.run (stay ++ [farewell])).world.history := by
  decide +kernel

theorem modifiesListed_farewell :
    History.ModifiesListed (arrived.run (stay ++ [farewell])).world.history := by
  decide +kernel

end Loopback

end SocketRelay
