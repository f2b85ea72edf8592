import SocketRelay.Proofs.Relay.Delivery
import SocketRelay.Proofs.Relay.Isolation
import SocketRelay.Proofs.Relay.Story
import SocketRelay.Proofs.Session.Concern
import SocketRelay.Proofs.Session.Output

/-!
# Sessions and sockets apart

Many sessions share one reactor, one table of descriptors and the numbers that their clients choose,
and yet none of them notices another one. Whatever a session is called for, it makes calls on its
own descriptors only and leaves every other session as it was; what is about one of its sockets
leaves its other sockets alone; and a poll gives every session notes about its own sockets only.
-/
namespace SocketRelay
open Protocol (Event Request)

/-- What a session can be called for. -/
inductive Operation where
  | frame (bytes : Bytes)
  | ready (note : Readiness)
  | drain
  | expire (now : Nat) (order : SocketOrder)
  | leave (order : SocketOrder)

/-- The socket that an operation is about, if it is about one. -/
inductive Operation.Names : Operation → SocketId → Prop
  | frame {bytes request} : Request.decode bytes = .ok request →
      Names (.frame bytes) request.socketId
  | ready (note) : Names (.ready note) note.socket

variable {κ : Type} [OperatingSystem κ]

def Operation.act : Operation → Session → Action κ Session.Reply
  | .frame bytes, s => s.onMessage bytes
  | .ready note, s => s.onReady note
  | .drain, s => do return (← s.drainMailbox).1
  | .expire now order, s => do return (← s.expireStalledConnects now order).1
  | .leave order, s => s.close order

theorem Session.decode_of_mem_emit {es : List Event} {frame : Bytes} (h : frame ∈ (emit es).1) :
    ∃ e ∈ es, Event.decode frame = .ok e := by
  obtain ⟨e, hmem, he⟩ := encode_of_mem_emit h
  have hread := Event.decode_encode he []
  rw [List.append_nil] at hread
  exact ⟨e, hmem, hread⟩

/-- A second client comes and connects a stream under the same number. -/
def Loopback.twoClients : List (Relay.Input Network) :=
  let second (request : Request) : Relay.Input Network :=
    .frame 1 (request.encode.toOption.getD [])
  visit ++ [.enter {}, second (.socket 1 0), second (.connect 1 [127, 0, 0, 1] 23911)]

namespace Relay
open History (OpensFresh Confined)
open Session (Touches Concerns)
variable {r r' : Relay κ} {i : Nat} {s : Session} {k : SocketId} {w' : World κ} {l : Log}

/-- The frames that the writer of the session at `j` is given when the session at `i` is called. -/
def answers (r : Relay κ) (i : Nat) (op : Operation) (j : Nat) : List Bytes :=
  framesTo j (r.serve i op.act).2

/-- What an operation of one session leaves alone: all other sessions, all descriptors that are not
its own, and, if it is about one socket, all other sockets. -/
structure Insulated (r : Relay κ) (i : Nat) (op : Operation) : Prop where
  silent : ∀ j, j ≠ i → r.answers i op j = []
  apart : Apart i r (r.serve i op.act).1
  calls : ∃ calls, (r.serve i op.act).1.world.history = calls ++ r.world.history ∧
    Confined (r.Owns i) r.world.history calls
  beside : ∀ k, op.Names k → Beside i k r (r.serve i op.act).1 ∧
    ∀ frame ∈ r.answers i op i, ∃ e, Event.decode frame = .ok e ∧ e.socketId = k

omit [OperatingSystem κ] in
theorem Beside.put {v' : VirtualSocket} {s' : Session} (hs : r.sessions[i]? = some s)
    (h : Beside i k r (r.put i (s.store k v') w'))
    (hs' : ∀ m, m ≠ k → s'.sockets.get? m = s.sockets.get? m) : Beside i k r (r.put i s' w') where
  sessions j hj := by rw [sessions_put hs, if_neg hj]
  sockets m hm := by rw [socket?_put hs, if_pos rfl, hs' m hm, socket?_of_session hs]
  mailboxes := h.mailboxes
  rows := h.rows
  watches := h.watches

omit [OperatingSystem κ] in
/-- What concerns one socket leaves the others alone, and its events name it. -/
theorem Owned.beside_touches {events : List Event} {s' : Session} (h : r.Owned)
    (hs : r.sessions[i]? = some s) (ht : Touches k s r.world events s' w')
    (hf : OpensFresh w'.history) :
    Beside i k r (r.put i s' w') ∧
      (∃ calls, w'.history = calls ++ r.world.history ∧
        Confined (r.Owns i) r.world.history calls) ∧
      ∀ e ∈ events, e.socketId = k := by
  rcases ht.own with ⟨rfl, rfl⟩ | ⟨v, t, v', hv, hc, rfl⟩
  · refine ⟨⟨fun j hj => ?_, fun m hm => ?_, fun _ => rfl, fun _ _ _ => .rfl, fun _ _ _ _ => rfl⟩,
      ⟨[], rfl, trivial⟩, nofun⟩
    · rw [sessions_put hs, if_neg hj]
    · rw [socket?_put hs, if_pos rfl, ht.others m hm, socket?_of_session hs]
  · obtain ⟨hbeside, calls, hcalls, hconfined, -⟩ := h.beside_conduct hs hv hc hf
    have hid := (h.sound i k v ((socket?_of_session hs k).trans hv)).2
    exact ⟨hbeside.put hs ht.others, ⟨calls, hcalls, hconfined⟩, fun e he =>
      (hc.named e he).trans hid⟩

/-- A step that calls a session isolates it. -/
theorem Owned.isolated_turn {settled : Prop} {x : Input κ} {frames : List Outgoing} (h : r.Owned)
    (ht : Turn settled r x l frames r') (hx : x.session? = some i)
    (hf : OpensFresh r'.world.history) : Apart i r r' ∧
      ∃ calls, r'.world.history = calls ++ r.world.history ∧
        Confined (r.Owns i) r.world.history calls := by
  cases ht with
  | absent => exact ⟨.refl i r, [], rfl, trivial⟩
  | served j hj hs hc =>
    cases hx.symm.trans hj
    obtain ⟨hapart, calls, hcalls, hconfined, -⟩ := h.isolated_course hs hc hf
    exact ⟨hapart, calls, hcalls, hconfined⟩
  | opened j k kind hasked hs =>
    obtain ⟨bytes, code, rfl, -⟩ := hasked
    cases hx
    exact ⟨.put hs rfl rfl fun _ _ => rfl, [], rfl, trivial⟩
  | entered | unpolled | polled | elapsed => cases hx

theorem Owned.beside_concerns {op : Operation} (h : r.Owned) (hs : r.sessions[i]? = some s)
    (hc : (op.act s).Ends r.world fun reply w' => Concerns k s r.world reply w')
    (hf : OpensFresh (r.serve i op.act).1.world.history) :
    Beside i k r (r.serve i op.act).1 ∧
      (∃ calls, (r.serve i op.act).1.world.history = calls ++ r.world.history ∧
        Confined (r.Owns i) r.world.history calls) ∧
      ∀ frame ∈ r.answers i op i, ∃ e, Event.decode frame = .ok e ∧ e.socketId = k := by
  obtain ⟨events, ht, hframes⟩ := hc
  unfold answers
  rw [serve_of_session hs, framesTo_outgoing, if_pos (h.formed i s hs).writer]
  rw [serve_of_session hs] at hf
  obtain ⟨hbeside, hcalls, hnamed⟩ := h.beside_touches hs ht hf
  refine ⟨hbeside, hcalls, fun frame hframe => ?_⟩
  rw [show _ = _ from hframes] at hframe
  obtain ⟨e, he, hdecode⟩ := Session.decode_of_mem_emit hframe
  exact ⟨e, hdecode, hnamed e he⟩

theorem Owned.insulated (h : r.Owned) (ho : r.AllOpen) (op : Operation)
    (hf : OpensFresh (r.serve i op.act).1.world.history) : Insulated r i op := by
  have hformed : r.AllFormed := h.formed
  have hsilent : ∀ j, j ≠ i → r.answers i op j = [] := fun j hj =>
    (hformed.framesTo_serve i op.act j).trans (if_neg (Ne.symm hj))
  cases hs : r.sessions[i]? with
  | none =>
    have hnone : r.serve i op.act = (r, []) := by
      unfold serve
      rw [hs]
    refine ⟨hsilent, ?_, ?_, fun k _ => ?_⟩
    · rw [hnone]
      exact .refl i r
    · rw [hnone]
      exact ⟨[], rfl, trivial⟩
    · unfold answers
      rw [hnone]
      exact ⟨.refl i k r, nofun⟩
  | some s =>
    have hnames : ∀ k, op.Names k → (op.act s).Ends r.world fun reply w' =>
        Concerns k s r.world reply w' := by
      intro k hk
      cases hk with
      | frame hdecode => exact Session.onMessage_concerns (ho i s hs) hdecode
      | ready note => exact Session.onReady_concerns (ho i s hs)
    have hisolated : Apart i r (r.serve i op.act).1 ∧
        ∃ calls, (r.serve i op.act).1.world.history = calls ++ r.world.history ∧
          Confined (r.Owns i) r.world.history calls := by
      cases op with
      | ready note =>
        obtain ⟨hbeside, hcalls, -⟩ := h.beside_concerns hs (hnames _ (.ready note)) hf
        exact ⟨hbeside.apart, hcalls⟩
      | frame bytes =>
        obtain ⟨l, ht⟩ := step_turn False ho (.frame i bytes) False.elim
        exact h.isolated_turn ht rfl hf
      | drain =>
        obtain ⟨l, ht⟩ := step_turn False ho (.drain i) False.elim
        exact h.isolated_turn ht rfl hf
      | expire now order =>
        obtain ⟨l, ht⟩ := step_turn False ho (.expire i now order) False.elim
        exact h.isolated_turn ht rfl hf
      | leave order =>
        obtain ⟨l, ht⟩ := step_turn False ho (.leave i order) False.elim
        exact h.isolated_turn ht rfl hf
    refine ⟨hsilent, hisolated.1, hisolated.2, fun k hk => ?_⟩
    obtain ⟨hbeside, -, hframes⟩ := h.beside_concerns hs (hnames k hk) hf
    exact ⟨hbeside, hframes⟩

/-- In every state that a relay reaches, an operation of one session leaves the others alone, and so
does a poll. -/
theorem sessions_separate {system : κ} {maxEvents : Nat} {xs : List (Input κ)}
    (hf : OpensFresh ((start system maxEvents).run xs).world.history) :
    (∀ i op, OpensFresh (((start system maxEvents).run xs).serve i op.act).1.world.history →
      Insulated ((start system maxEvents).run xs) i op) ∧
    ∀ j, Polled ((start system maxEvents).run xs) j := by
  have howned := owned_run hf
  have hopen := allOpen_run (allOpen_start system maxEvents) xs
  exact ⟨fun i op hf' => howned.insulated hopen op hf', howned.polled⟩

theorem sessions_separate_twoClients :
    OpensFresh ((start Loopback.listening 8).run Loopback.twoClients).world.history ∧
      OpensFresh (((start Loopback.listening 8).run Loopback.twoClients).serve 0
        (Operation.leave .ofRows).act).1.world.history ∧
      Insulated ((start Loopback.listening 8).run Loopback.twoClients) 0 (.leave .ofRows) ∧
      Polled ((start Loopback.listening 8).run Loopback.twoClients) 1 := by
  have hf : OpensFresh ((start Loopback.listening 8).run Loopback.twoClients).world.history := by
    decide +kernel
  have hf' : OpensFresh (((start Loopback.listening 8).run Loopback.twoClients).serve 0
      (Operation.leave .ofRows).act).1.world.history := by
    decide +kernel
  exact ⟨hf, hf', (sessions_separate hf).1 0 (.leave .ofRows) hf', (sessions_separate hf).2 1⟩

end Relay

end SocketRelay
