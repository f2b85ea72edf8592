import SocketRelay.Proofs.Session.Operation

/-!
# Closed sessions

Whatever a session does to the reactor's table it does through its sockets. A closed session has
none, so its operations change nothing but its mailbox. Carrying out a request is the exception: it
does not ask whether the session is closed, and a request for a socket that is granted adds one.
-/
namespace SocketRelay
open Protocol (Request)
open SocketRelay.Action (Ends)

namespace Session
open VirtualSocket (Conduct)
variable {κ : Type} {s : Session} {w w' : World κ} {k : SocketId}

theorem openSocket_session (k : SocketId) (kind : Int64) :
    (s.openSocket k kind).session = s ∨
      (s.openSocket k kind).result = .ok () ∧ s.sockets.get? k = none ∧
        s.sockets.size < s.settings.maxSockets ∧
        ∃ transport, (s.openSocket k kind).session = s.store k { id := k, kind := transport } := by
  unfold openSocket
  split
  · exact .inl rfl
  rename_i hsize
  split
  · exact .inl rfl
  rename_i transport hkind
  split
  · exact .inl rfl
  · rename_i hk
    have hk : s.sockets.get? k = none := by simpa [Table.contains] using hk
    exact .inr ⟨rfl, hk, Nat.lt_of_not_le hsize, transport, rfl⟩

/-- Nothing happened, except to the mailbox. -/
structure Rests (s : Session) (w : World κ) (reply : Reply) (w' : World κ) : Prop where
  session : reply.session = s
  frames : reply.frames = []
  history : w'.history = w.history
  reactor : w'.reactor = w.reactor

variable [OperatingSystem κ]

theorem onReady_conducts (s : Session) (note : Readiness) (w : World κ) :
    (s.onReady note).Ends w fun reply w' => reply.session = s ∧ w' = w ∨
      ∃ v t v', s.handler? note = some v ∧ Conduct s.context False False v w t v' w' ∧
        reply.session = (s.store note.socket v').reap := by
  rw [onReady_eq]
  split
  · exact Ends.pure (.inl ⟨rfl, rfl⟩)
  rename_i v hv
  refine Ends.bind (handleReady_ends False False.elim) ?_
  intro outcome w' h
  exact Ends.pure (.inr ⟨v, _, outcome.1, hv, h.1, rfl⟩)

/-- Giving back descriptors leaves the table to itself. -/
theorem giveBack_ends (sockets : List VirtualSocket) (w : World κ) :
    (giveBack sockets).Ends w fun _ w' => w'.reactor = w.reactor := by
  induction sockets generalizing w with
  | nil => exact Ends.pure rfl
  | cons v sockets ih =>
    unfold giveBack
    dsimp only
    split
    · exact ih w
    · exact Ends.call fun _ w₁ hm => (ih w₁).mono fun _ w' h => h.trans hm.reactor

section
variable (hc : s.closed)
include hc

theorem onMessage_rests (frame : Bytes) : (s.onMessage frame).Ends w (s.Rests w) := by
  unfold onMessage
  rw [if_pos hc]
  exact Ends.pure ⟨rfl, rfl, rfl, rfl⟩

theorem onReady_rests (note : Readiness) : (s.onReady note).Ends w (s.Rests w) := by
  unfold onReady
  rw [if_pos hc]
  exact Ends.pure ⟨rfl, rfl, rfl, rfl⟩

theorem drainUpTo_rests (most : Nat) :
    (s.drainUpTo most).Ends w fun result w' => s.Rests w result.1 w' := by
  induction most generalizing w with
  | zero => exact Ends.pure ⟨rfl, rfl, rfl, rfl⟩
  | succ most ih =>
    unfold drainUpTo
    have htake : (takeNote s.mailbox).Ends w fun _ w' =>
        w'.history = w.history ∧ w'.reactor = w.reactor := by
      unfold Ends
      rw [takeNote_eq]
      split <;> exact ⟨rfl, rfl⟩
    refine Ends.bind htake fun taken w₁ h₁ => ?_
    cases taken with
    | none => exact Ends.pure ⟨rfl, rfl, h₁.1, h₁.2⟩
    | some note =>
      refine Ends.bind (onReady_rests hc note) fun first w₂ hfirst => ?_
      rw [hfirst.session]
      refine Ends.bind ih fun rest w' hrest => Ends.pure ⟨hrest.session, ?_, ?_, ?_⟩
      · simp [hfirst.frames, hrest.frames]
      · rw [hrest.history, hfirst.history, h₁.1]
      · rw [hrest.reactor, hfirst.reactor, h₁.2]

theorem close_rests (order : SocketOrder) : (s.close order).Ends w (s.Rests w) := by
  unfold close
  rw [if_pos hc]
  exact Ends.pure ⟨rfl, rfl, rfl, rfl⟩

theorem release_rests (he : s.sockets = Table.empty) (order : SocketOrder) :
    (s.release order).Ends w (s.Rests w) := by
  unfold release
  refine Ends.bind (close_rests hc order) fun reply w₁ hclose => ?_
  rw [hclose.session, he, order.visit_empty]
  refine Ends.pure ⟨?_, hclose.frames, hclose.history, hclose.reactor⟩
  rw [← he]

end

theorem expireStalledConnects_rests (he : s.sockets = Table.empty) (now : Nat)
    (order : SocketOrder) :
    (s.expireStalledConnects now order).Ends w fun result w' => s.Rests w result.1 w' := by
  unfold expireStalledConnects
  split
  · exact Ends.pure ⟨rfl, rfl, rfl, rfl⟩
  · rw [he, order.visit_empty]
    exact Ends.pure ⟨rfl, rfl, rfl, rfl⟩

/-- A session without sockets carries out nothing, unless the request is for a socket and
granted. -/
theorem dispatch_rests {request : Request} (he : s.sockets = Table.empty)
    (hr : ∀ k kind, request = .socket k kind → (s.openSocket k kind).result ≠ .ok ()) :
    (s.dispatch request).Ends w fun done w' =>
      done.session = s ∧ w'.history = w.history ∧ w'.reactor = w.reactor := by
  have hempty : ∀ k, s.sockets.get? k = none := fun k => by rw [he]; rfl
  have hreap : s.reap = s := AllOpen.reap_eq fun k v hv => by
    rw [hempty k] at hv
    cases hv
  have hcarried : (s.carryOut request).Ends w fun done w' => done.session = s ∧ w' = w := by
    have hwith : ∀ (k : SocketId) (operation : VirtualSocket → Action κ VirtualSocket.Outcome),
        (s.withSocket k operation).Ends w fun done w' => done.session = s ∧ w' = w := by
      intro k operation
      unfold withSocket
      rw [hempty k]
      exact Ends.pure ⟨rfl, rfl⟩
    cases request with
    | socket k kind =>
      refine Ends.pure ⟨?_, rfl⟩
      exact (openSocket_session k kind).resolve_right fun h => hr k kind rfl h.1
    | socketClose k =>
      change (s.closeSocket k).Ends w _
      unfold closeSocket
      rw [hempty k]
      exact Ends.pure ⟨rfl, rfl⟩
    | bind k port =>
      refine Ends.pure ⟨?_, rfl⟩
      unfold bindSocket
      rw [hempty k]
    | connect k address port => exact hwith k _
    | send k data => exact hwith k _
    | sendto k address port data => exact hwith k _
  refine Ends.bind hcarried fun done w' h => Ends.pure ⟨?_, by rw [h.2], by rw [h.2]⟩
  change done.session.reap = s
  rw [h.1, hreap]

end Session

end SocketRelay
