import SocketRelay.Proofs.Relay.Ownership
import SocketRelay.Proofs.Socket.Refusal

/-!
# Frames that are turned down

A frame may be no request, it may name a socket that is not there, or the request may be refused. In
each case the relay is as before: no session, no mailbox and no registration has changed, nothing
was opened or closed, and nothing is written. Only a send that finds no room in the queue may have
handed the system its data once before.

A refusal is found out before the first change. What a session does after each request, also after
one that failed, changes nothing either, since no closed socket is in the table.
-/
namespace SocketRelay
open Protocol (Request)
open SocketRelay.Action (Ends)

namespace Session
variable {κ : Type} {s : Session} {w : World κ} {k : SocketId}

/-- The data of a send was handed to the system once, and the rest of it found no room. -/
def Crowded (s : Session) (w : World κ) (request : Request) (result : Except RelayError Unit)
    (w' : World κ) : Prop :=
  ∃ k data v d answer, request = .send k data ∧ s.sockets.get? k = some v ∧ v.live? = some d ∧
    result = .error (.backpressure v.id v.outbound.length s.settings.sendQueueLimit) ∧
    w.Moved [⟨.send d data, answer⟩] w.reactor w'

/-- A request left the session as it was, without a word. -/
def Traceless (s : Session) (w : World κ) (request : Request) (done : Dispatched) (w' : World κ) :
    Prop :=
  done.session = s ∧ done.events = [] ∧ (w' = w ∨ Crowded s w request done.result w')

theorem traceless_idle {request : Request} {notices : List Notice}
    {result : Except RelayError Unit} :
    Traceless s w request { session := s, notices, result } w := ⟨rfl, rfl, .inl rfl⟩

theorem eq_error_of_refusal {result : Except RelayError Unit} {e : RelayError}
    (h : refusal result = [.refused e]) : result = .error e := by
  cases result with
  | ok => cases h
  | error e' =>
    cases h
    rfl

theorem store_same {v : VirtualSocket} (hv : s.sockets.get? k = some v) : s.store k v = s := by
  unfold store
  rw [Table.insert_of_get? hv]

theorem openSocket_traceless {kind : Int64} :
    Unrefused (s.openSocket k kind).result ∨
      Traceless s w (.socket k kind) (s.openSocket k kind) w := by
  unfold openSocket
  split
  · exact .inr traceless_idle
  split
  · exact .inr traceless_idle
  split
  · exact .inr traceless_idle
  · exact .inl (unrefused_ok ())

theorem bindSocket_traceless {port : Port} :
    Unrefused (s.bindSocket k port).result ∨
      Traceless s w (.bind k port) (s.bindSocket k port) w := by
  unfold bindSocket
  split
  · exact .inr traceless_idle
  split
  · exact .inl (unrefused_ok ())
  · exact .inr traceless_idle

/-- A session is as careful as its sockets are. -/
theorem withSocket_traceless {request : Request}
    {operation : VirtualSocket → Action κ VirtualSocket.Outcome}
    (h : ∀ v, s.sockets.get? k = some v → (operation v).Ends w fun o w' =>
      VirtualSocket.Careful v w o w' ∨
        o.socket = v ∧ o.events = [] ∧ Crowded s w request o.result w') :
    (s.withSocket k operation).Ends w fun done w' =>
      Unrefused done.result ∨ Traceless s w request done w' := by
  refine (withSocket_ends h).mono ?_
  intro done w' hafter
  rcases hafter with ⟨-, rfl, rfl⟩ | ⟨v, o, hv, ho, rfl⟩
  · exact .inr traceless_idle
  · rcases ho with (hr | ⟨hs, he, hw⟩) | ⟨hs, he, hw⟩
    · exact .inl hr
    · have hstore : s.store k o.socket = s := hs ▸ store_same hv
      exact .inr ⟨hstore, he, .inl hw⟩
    · have hstore : s.store k o.socket = s := hs ▸ store_same hv
      exact .inr ⟨hstore, he, .inr hw⟩

variable [OperatingSystem κ]

theorem closeSocket_unrefused : (s.closeSocket k).Ends w fun done _ => Unrefused done.result := by
  unfold closeSocket
  split
  · exact Ends.pure (unrefused_ok ())
  · exact Ends.bind (p := fun _ _ => True) trivial fun _ _ _ => Ends.pure (unrefused_ok ())

theorem carryOut_traceless {request : Request} :
    (s.carryOut request).Ends w fun done w' =>
      Unrefused done.result ∨ Traceless s w request done w' := by
  cases request with
  | socket k kind => exact Ends.pure openSocket_traceless
  | socketClose k => exact closeSocket_unrefused.mono fun _ _ => .inl
  | bind k port => exact Ends.pure bindSocket_traceless
  | connect k address port =>
    exact withSocket_traceless fun v _ => VirtualSocket.connect_careful.mono fun _ _ => .inl
  | send k data =>
    refine withSocket_traceless fun v hv => VirtualSocket.send_careful.mono fun o w' h => ?_
    rcases h with h | ⟨hs, he, d, answer, hd, hw, ho⟩
    · exact .inl h
    · exact .inr ⟨hs, he, k, data, v, d, answer, rfl, hv, hd, ho, hw⟩
  | sendto k address port data =>
    exact withSocket_traceless fun v _ => VirtualSocket.sendto_careful.mono fun _ _ => .inl

theorem carryOut_unknown {request : Request} (hm : request.method ≠ .socket)
    (hk : s.sockets.get? request.socketId = none) :
    (s.carryOut request).Ends w fun done w' => Traceless s w request done w' := by
  have hwith : ∀ k operation, s.sockets.get? k = none →
      (s.withSocket k operation).Ends w fun done w' => Traceless s w request done w' := by
    intro k operation hk
    unfold withSocket
    rw [hk]
    exact Ends.pure traceless_idle
  cases request with
  | socket k kind => exact (hm rfl).elim
  | socketClose k =>
    change s.sockets.get? k = none at hk
    change (s.closeSocket k).Ends w _
    unfold closeSocket
    rw [hk]
    exact Ends.pure traceless_idle
  | bind k port =>
    change s.sockets.get? k = none at hk
    refine Ends.pure ?_
    unfold bindSocket
    rw [hk]
    exact traceless_idle
  | connect | send | sendto => exact hwith _ _ hk

/-- Dropping closed sockets leaves no trace where carrying out the request has left none. -/
theorem dispatch_traceless {request : Request} {p : Except RelayError Unit → Prop} (ho : s.AllOpen)
    (h : (s.carryOut request).Ends w fun done w' =>
      p done.result ∨ Traceless s w request done w') :
    (s.dispatch request).Ends w fun done w' =>
      p done.result ∨ Traceless s w request done w' := by
  unfold dispatch
  refine Ends.bind h fun done w' hd => Ends.pure ?_
  rcases hd with hr | ⟨hs, he, hw⟩
  · exact .inl hr
  · refine .inr ⟨?_, he, hw⟩
    change done.session.reap = s
    rw [hs, ho.reap_eq]

/-- A frame is no request, or names an unknown socket, or asks for what is refused. -/
inductive Rejects (s : Session) (w : World κ) (frame : Bytes) : Prop
  | malformed (cause) : Request.decode frame = .error cause → Rejects s w frame
  | unknown (request) : Request.decode frame = .ok request → request.method ≠ .socket →
      s.sockets.get? request.socketId = none → Rejects s w frame
  | refused (request e) : Request.decode frame = .ok request →
      (s.dispatch request w).1.result = .error e → e.IsRefusal → Rejects s w frame

theorem onMessage_rejected {frame : Bytes} (ho : s.AllOpen) (h : s.Rejects w frame) :
    (s.onMessage frame).Ends w fun reply w' => reply.session = s ∧ reply.frames = [] ∧
      (w' = w ∨ ∃ request, Request.decode frame = .ok request ∧
        Crowded s w request (s.dispatch request w).1.result w') := by
  have hreply : ∀ request, Request.decode frame = .ok request →
      Traceless s w request (s.dispatch request w).1 (s.dispatch request w).2 →
      (s.onMessage frame).Ends w fun reply w' => reply.session = s ∧ reply.frames = [] ∧
        (w' = w ∨ ∃ request, Request.decode frame = .ok request ∧
          Crowded s w request (s.dispatch request w).1.result w') := by
    intro request hdecode htrace
    obtain ⟨hs, he, hw⟩ := htrace
    unfold onMessage
    split
    · exact Ends.pure ⟨rfl, rfl, .inl rfl⟩
    · rw [hdecode]
      refine ⟨hs, ?_, hw.imp_right fun hc => ⟨request, rfl, hc⟩⟩
      change (emit (s.dispatch request w).1.events).1 = []
      rw [he]
      rfl
  cases h with
  | malformed cause hdecode =>
    unfold onMessage
    split
    · exact Ends.pure ⟨rfl, rfl, .inl rfl⟩
    · rw [hdecode]
      exact Ends.pure ⟨rfl, rfl, .inl rfl⟩
  | unknown request hdecode hm hk =>
    have hd := dispatch_traceless (p := fun _ => False) ho
      ((carryOut_unknown (w := w) hm hk).mono fun _ _ => .inr)
    exact hreply request hdecode (hd.resolve_left not_false)
  | refused request e hdecode hr he =>
    refine hreply request hdecode ?_
    have hd : (s.dispatch request).Ends w _ := dispatch_traceless ho carryOut_traceless
    rcases hd with hu | ht
    · exact (hu e hr he).elim
    · exact ht

end Session

namespace Loopback
open Relay (start)

/-- A client that may keep three bytes waiting, with a stream that takes two at once. -/
def smallQueue : Relay Network :=
  (start { listening with window := 2 } 8).run
    [.enter { sendQueueLimit := 3 }, asks (.socket 1 0), asks (.connect 1 [127, 0, 0, 1] 23911),
      .poll, .drain 0]

def overload : Request := .send 1 [1, 2, 3, 4, 5, 6]

def overloadFrame : Bytes := overload.encode.toOption.getD []

end Loopback

namespace Relay
open History (openDescriptors watch?)
variable {κ : Type} {r : Relay κ} {i : Nat} {s : Session}

/-- No session, no mailbox and no registration has changed, and the same descriptors are open and
watched. -/
structure Untouched (r r' : Relay κ) : Prop where
  sessions : r'.sessions = r.sessions
  mailboxes : r'.world.mailboxes = r.world.mailboxes
  reactor : r'.world.reactor = r.world.reactor
  opened : openDescriptors r'.world.history = openDescriptors r.world.history
  watched : ∀ d, watch? d r'.world.history = watch? d r.world.history

theorem Untouched.refl (r : Relay κ) : Untouched r r := ⟨rfl, rfl, rfl, rfl, fun _ => rfl⟩

theorem untouched_of_send {w' : World κ} {d : Descriptor} {data : Bytes}
    {answer : Except Errno Nat} (hm : r.world.Moved [⟨.send d data, answer⟩] r.world.reactor w') :
    Untouched r { r with world := w' } := by
  refine ⟨rfl, hm.mailboxes, hm.reactor, ?_, fun e => ?_⟩
  · change openDescriptors w'.history = _
    rw [hm.history]
    rfl
  · change watch? e w'.history = _
    rw [hm.history]
    rfl

variable [OperatingSystem κ]

/-- What is left of a frame that is turned down: nothing, or one call for a send. -/
structure Forgotten (r : Relay κ) (s : Session) (frame : Bytes) (r' : Relay κ) : Prop where
  untouched : Untouched r r'
  calls : r' = r ∨ ∃ k data v d answer, Request.decode frame = .ok (.send k data) ∧
    s.sockets.get? k = some v ∧ v.live? = some d ∧
    (s.dispatch (.send k data) r.world).1.result =
      .error (.backpressure k v.outbound.length s.settings.sendQueueLimit) ∧
    r'.world.history = ⟨.send d data, answer⟩ :: r.world.history

theorem forgotten_of_rejects {frame : Bytes} (ho : s.AllOpen) (hsound : r.AllSound)
    (hs : r.sessions[i]? = some s) (h : s.Rejects r.world frame) :
    (r.step (.frame i frame)).2 = [] ∧ Forgotten r s frame (r.step (.frame i frame)).1 := by
  have hstep : r.step (.frame i frame) =
      (r.put i (s.onMessage frame r.world).1.session (s.onMessage frame r.world).2,
        s.outgoing (s.onMessage frame r.world).1.frames) :=
    serve_of_session hs fun s => s.onMessage frame
  obtain ⟨hsame, hframes, hw⟩ := Session.onMessage_rejected ho h
  rw [hstep, hsame, put_same hs]
  refine ⟨congrArg s.outgoing hframes, ?_⟩
  rcases hw with hw | ⟨request, hdecode, k, data, v, d, answer, rfl, hv, hd, hr, hmoved⟩
  · rw [hw]
    exact ⟨.refl r, .inl rfl⟩
  · have hid := (hsound i k v ((socket?_of_session hs k).trans hv)).2
    rw [hid] at hr
    have hcall := hmoved.history
    exact ⟨untouched_of_send hmoved, .inr ⟨k, data, v, d, answer, hdecode, hv, hd, hr, hcall⟩⟩

/-- In every state that a relay reaches, a frame that is turned down is not answered and leaves
everything as it was. -/
theorem rejected_traceless {system : κ} {maxEvents : Nat} {xs : List (Input κ)} {frame : Bytes}
    (hs : ((start system maxEvents).run xs).sessions[i]? = some s)
    (h : s.Rejects ((start system maxEvents).run xs).world frame) :
    (((start system maxEvents).run xs).step (.frame i frame)).2 = [] ∧
      Forgotten ((start system maxEvents).run xs) s frame
        (((start system maxEvents).run xs).step (.frame i frame)).1 := by
  have hopen := allOpen_run (allOpen_start system maxEvents) xs
  have hsound : ((start system maxEvents).run xs).AllSound :=
    (allSound_start system maxEvents).run (allOpen_start system maxEvents) xs
  exact forgotten_of_rejects (hopen i s hs) hsound hs h

theorem rejected_traceless_overload : ∃ s, Loopback.smallQueue.sessions[0]? = some s ∧
    s.Rejects Loopback.smallQueue.world Loopback.overloadFrame ∧
    (Loopback.smallQueue.step (.frame 0 Loopback.overloadFrame)).2 = [] ∧
    Forgotten Loopback.smallQueue s Loopback.overloadFrame
      (Loopback.smallQueue.step (.frame 0 Loopback.overloadFrame)).1 := by
  obtain ⟨s, hs⟩ : ∃ s, Loopback.smallQueue.sessions[0]? = some s :=
    Option.isSome_iff_exists.1 (by decide +kernel)
  have hdecode : Request.decode Loopback.overloadFrame = .ok Loopback.overload :=
    Loopback.eq_ok_of_toOption (by decide +kernel)
  have hresult : (s.dispatch Loopback.overload Loopback.smallQueue.world).1.result =
      .error (.backpressure 1 0 3) := by
    have h : (Loopback.smallQueue.sessions[0]?.map fun s => Session.refusal
        (s.dispatch Loopback.overload Loopback.smallQueue.world).1.result) =
          some [.refused (.backpressure 1 0 3)] := by
      decide +kernel
    rw [hs] at h
    exact Session.eq_error_of_refusal (Option.some.inj h)
  have h : s.Rejects Loopback.smallQueue.world Loopback.overloadFrame :=
    .refused Loopback.overload _ hdecode hresult (.inr rfl)
  exact ⟨s, hs, h, rejected_traceless hs h⟩

end Relay

end SocketRelay
