import SocketRelay.Proofs.Numbering
import SocketRelay.Proofs.Session.Vocabulary

/-!
# One registration at a time

Of all that a session does, only connecting a stream and sending a first datagram ask for a
registration, and for one. That nothing else does can be seen from the vocabularies; to count
registrations takes a look at how a descriptor is opened.
-/
namespace SocketRelay
open History (registrations)
open Protocol (Request)
variable {κ α β : Type}

namespace Action
variable {a : Action κ α} {f : α → Action κ β} {n : Nat}

/-- The action asks for so many registrations at most. -/
def Asks (a : Action κ α) (n : Nat) : Prop :=
  ∀ w, registrations (a w).2.history ≤ registrations w.history + n

theorem Asks.pure (x : α) (n : Nat) : Asks (pure x : Action κ α) n :=
  fun _ => Nat.le_add_right _ n

theorem Asks.bind (h : a.Asks 0) (hf : ∀ x, (f x).Asks n) : Asks (a >>= f) n :=
  fun w => Nat.le_trans (hf _ _) (Nat.add_le_add_right (h w) n)

theorem Asks.first (h : a.Asks n) (hf : ∀ x, (f x).Asks 0) : Asks (a >>= f) n :=
  fun w => Nat.le_trans (hf _ _) (h w)

theorem Asks.mono {m : Nat} (h : a.Asks n) (hm : n ≤ m) : a.Asks m :=
  fun w => Nat.le_trans (h w) (Nat.add_le_add_left hm _)

theorem Asks.get : Asks (get : Action κ (World κ)) 0 := fun _ => Nat.le_refl _

/-- An action without registrations in its vocabulary asks for none. -/
theorem Makes.asks {P : Call → Prop} (h : a.Makes P)
    (hp : ∀ x : Exchange, P x.call → x.registers = false) : a.Asks 0 := by
  intro w
  obtain ⟨calls, hc, hcalls⟩ := h w
  have hnone : History.Unregistered calls := fun x hx => hp x (hcalls x hx)
  rw [hc, hnone.registrations_eq]
  exact Nat.le_refl _

variable [OperatingSystem κ]

theorem asks_perform (c : Call) : Asks (κ := κ) (perform c) 1 := by
  intro w
  change registrations (_ :: w.history) ≤ _
  rw [History.registrations_cons]
  split <;> omega

theorem asks_perform_other {c : Call} (h : ∀ answer, Exchange.registers ⟨c, answer⟩ = false) :
    Asks (κ := κ) (perform c) 0 := by
  refine (makes_perform (P := (· = c)) rfl).asks ?_
  intro x hx
  obtain ⟨call, answer⟩ := x
  cases hx
  exact h answer

end Action

open SocketRelay.Action (Asks Makes asks_perform asks_perform_other)

theorem Releasing.registers_eq {x : Exchange} (h : Releasing x.call) : x.registers = false := by
  obtain ⟨call, answer⟩ := x
  cases h <;> rfl

theorem Writing.registers_eq {x : Exchange} (h : Writing x.call) : x.registers = false := by
  obtain ⟨call, answer⟩ := x
  cases h <;> rfl

theorem Serving.registers_eq {x : Exchange} (h : Serving x.call) : x.registers = false := by
  obtain ⟨call, answer⟩ := x
  cases h with
  | error | read => rfl
  | written h => exact Writing.registers_eq h
  | released h => exact Releasing.registers_eq h

theorem Reactor.asks_register [OperatingSystem κ] (d : Descriptor) (socket : SocketId)
    (mailbox : MailboxId) (interest : Interest) :
    Asks (κ := κ) (register d socket mailbox interest) 1 := by
  have hdraw : Asks (κ := κ) drawGeneration 0 := fun _ => Nat.le_refl _
  refine hdraw.bind fun generation => (asks_perform _).first fun answer => ?_
  cases answer with
  | error e => exact Asks.pure _ 0
  | ok =>
    have htable : ∀ f, Asks (κ := κ) (modifyTable f) 0 := fun _ _ => Nat.le_refl _
    exact (htable _).bind fun _ => Asks.pure _ 0

namespace VirtualSocket
variable (v : VirtualSocket) (ctx : SocketContext) [OperatingSystem κ]

theorem asks_discard (d : Descriptor) (operation : String) (e : Errno) :
    Asks (κ := κ) (discard d operation e) 0 :=
  (makes_discard d operation e).asks fun _ => Releasing.registers_eq

theorem asks_connectFailed (e : RelayError) : Asks (κ := κ) (v.connectFailed e) 0 :=
  (v.makes_connectFailed e).asks fun _ => Releasing.registers_eq

theorem asks_allowReuse (d : Descriptor) (port : Port) : Asks (κ := κ) (allowReuse d port) 0 := by
  unfold allowReuse
  split
  · exact Asks.pure _ 0
  · exact asks_perform_other fun _ => rfl

theorem asks_createReal : Asks (κ := κ) v.createReal 0 := by
  refine (asks_perform_other fun _ => rfl).bind fun answer => ?_
  cases answer with
  | error e => exact Asks.pure _ 0
  | ok d =>
    refine (asks_allowReuse d _).bind fun reuse => ?_
    cases reuse with
    | error e => exact asks_discard d _ e
    | ok =>
      refine (asks_perform_other fun _ => rfl).bind fun answer => ?_
      cases answer with
      | error e => exact asks_discard d _ e
      | ok => exact Asks.pure _ 0

theorem asks_attach (d : Descriptor) : Asks (κ := κ) (v.attach ctx d) 1 := by
  refine (Reactor.asks_register d _ _ _).first fun result => ?_
  cases result with
  | error e => exact (asks_perform_other fun _ => rfl).bind fun _ => Asks.pure _ 0
  | ok token => exact Asks.pure _ 0

theorem asks_connectReal (d : Descriptor) (destination : Endpoint4) :
    Asks (κ := κ) (v.connectReal ctx d destination) 1 := by
  refine (asks_perform_other fun _ => rfl).bind fun answer => ?_
  split
  · exact ((asks_perform_other fun _ => rfl).bind fun _ => v.asks_connectFailed _).mono
      (Nat.zero_le 1)
  · refine Asks.get.bind fun w => (asks_attach _ ctx d).first fun result => ?_
    cases result with
    | error e => exact asks_connectFailed _ e
    | ok attached => exact Asks.pure _ 0

theorem asks_connect (address : Bytes) (port : Port) :
    Asks (κ := κ) (v.connect ctx address port) 1 := by
  unfold connect
  split
  · exact Asks.pure _ 1
  split
  · exact Asks.pure _ 1
  split
  · exact Asks.pure _ 1
  split
  · exact Asks.pure _ 1
  refine v.asks_createReal.bind fun result => ?_
  cases result with
  | error e => exact (v.asks_connectFailed e).mono (Nat.zero_le 1)
  | ok d => exact v.asks_connectReal ctx d _

theorem asks_openDatagram : Asks (κ := κ) (v.openDatagram ctx) 1 := by
  unfold openDatagram
  split
  · exact Asks.pure _ 1
  · refine v.asks_createReal.bind fun result => ?_
    cases result with
    | error e => exact Asks.pure _ 1
    | ok d => exact v.asks_attach ctx d

theorem asks_sendto (address : Bytes) (port : Port) (data : Bytes) :
    Asks (κ := κ) (v.sendto ctx address port data) 1 := by
  unfold sendto
  split
  · exact Asks.pure _ 1
  split
  · exact Asks.pure _ 1
  split
  · exact Asks.pure _ 1
  refine (v.asks_openDatagram ctx).first fun result => ?_
  cases result with
  | error e => exact Asks.pure _ 0
  | ok opened =>
    dsimp only
    split
    · exact Asks.pure _ 0
    · refine (asks_perform_other fun _ => rfl).bind fun answer => ?_
      cases answer with
      | error e => exact Asks.pure _ 0
      | ok n => exact Asks.pure _ 0

end VirtualSocket

namespace Session
variable (s : Session)

theorem asks_withSocket (k : SocketId) {n : Nat}
    {operation : VirtualSocket → Action κ VirtualSocket.Outcome} (h : ∀ v, (operation v).Asks n) :
    (s.withSocket k operation).Asks n := by
  unfold withSocket
  split
  · exact Asks.pure _ n
  · exact (h _).first fun _ => Asks.pure _ 0

variable [OperatingSystem κ]

theorem asks_carryOut (request : Request) : Asks (κ := κ) (s.carryOut request) 1 := by
  cases request with
  | connect k address port => exact s.asks_withSocket k fun v => v.asks_connect _ address port
  | sendto k address port data =>
    exact s.asks_withSocket k fun v => v.asks_sendto _ address port data
  | socket k kind | bind k port => exact Asks.pure _ 1
  | socketClose k =>
    have hclose := (s.makes_closeSocket (κ := κ) k).asks fun _ => Releasing.registers_eq
    exact hclose.mono (Nat.zero_le 1)
  | send k data =>
    have hsend := s.asks_withSocket (κ := κ) k fun v =>
      (v.makes_send s.context data).asks fun _ => Writing.registers_eq
    exact hsend.mono (Nat.zero_le 1)

theorem asks_dispatch (request : Request) : Asks (κ := κ) (s.dispatch request) 1 :=
  (s.asks_carryOut request).first fun _ => Asks.pure _ 0

theorem asks_onMessage (frame : Bytes) : Asks (κ := κ) (s.onMessage frame) 1 := by
  unfold onMessage
  split
  · exact Asks.pure _ 1
  split
  · exact Asks.pure _ 1
  · exact (s.asks_dispatch _).first fun _ => Asks.pure _ 0

theorem asks_drainUpTo (n : Nat) : Asks (κ := κ) (s.drainUpTo n) 0 :=
  (s.makes_drainUpTo n).asks fun _ => Serving.registers_eq

theorem asks_drainMailbox : Asks (κ := κ) s.drainMailbox 0 :=
  s.makes_drainMailbox.asks fun _ => Serving.registers_eq

theorem asks_expireStalledConnects (now : Nat) (order : SocketOrder) :
    Asks (κ := κ) (s.expireStalledConnects now order) 0 :=
  (s.makes_expireStalledConnects now order).asks fun _ => Releasing.registers_eq

theorem asks_close (order : SocketOrder) : Asks (κ := κ) (s.close order) 0 :=
  (s.makes_close order).asks fun _ => Releasing.registers_eq

end Session

end SocketRelay
