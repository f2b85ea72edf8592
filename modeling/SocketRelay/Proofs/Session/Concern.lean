import SocketRelay.Proofs.Session.Operation

/-!
# One socket at a time

A request names a socket, and so does a readiness note. Carrying out the one or handling the other
concerns that socket alone: the session's other sockets stay as they are, and what happens to the
world is the conduct of the socket that was named. No socket that was open before is dropped from
the table on the way.
-/
namespace SocketRelay.Session
open Protocol (Event Request)
open SocketRelay.Action (Ends)
open VirtualSocket (Conduct)
variable {κ : Type} {s s' : Session} {w w' : World κ} {k : SocketId} {events : List Event}

/-- Nothing happened in a session but to one of its sockets, which caused these events. -/
structure Touches (k : SocketId) (s : Session) (w : World κ) (events : List Event) (s' : Session)
    (w' : World κ) : Prop where
  others : ∀ m, m ≠ k → s'.sockets.get? m = s.sockets.get? m
  own : w' = w ∧ events = [] ∨ ∃ v t v', s.sockets.get? k = some v ∧
    Conduct s.context False False v w t v' w' ∧ t.events = events

theorem Touches.refl (k : SocketId) (s : Session) (w : World κ) : Touches k s w [] s w :=
  ⟨fun _ _ => rfl, .inl ⟨rfl, rfl⟩⟩

theorem get?_store_of_ne {m : SocketId} (h : m ≠ k) (v : VirtualSocket) :
    (s.store k v).sockets.get? m = s.sockets.get? m := by
  rw [store, Table.get?_insert, if_neg h]

theorem touches_store {v v' : VirtualSocket} {t : Traffic} (hv : s.sockets.get? k = some v)
    (hc : Conduct s.context False False v w t v' w') :
    Touches k s w t.events (s.store k v') w' :=
  ⟨fun _ hm => get?_store_of_ne hm v', .inr ⟨v, t, v', hv, hc, rfl⟩⟩

/-- Only sockets that are closed are dropped, and no others were. -/
theorem Touches.reap (h : Touches k s w events s' w') (ho : s.AllOpen) :
    Touches k s w events s'.reap w' := by
  refine ⟨fun m hm => ?_, h.own⟩
  rw [Session.reap, Table.get?_filter, h.others m hm]
  cases hu : s.sockets.get? m with
  | none => rfl
  | some u =>
    have hopen := ho m u hu
    simp [Option.filter, hopen]

theorem openSocket_touches {kind : Int64} : Touches k s w (s.openSocket k kind).events
    (s.openSocket k kind).session w := by
  unfold openSocket
  split
  · exact .refl k s w
  split
  · exact .refl k s w
  split
  · exact .refl k s w
  · exact ⟨fun _ hm => get?_store_of_ne hm _, .inl ⟨rfl, rfl⟩⟩

theorem bindSocket_touches {port : Port} : Touches k s w (s.bindSocket k port).events
    (s.bindSocket k port).session w := by
  unfold bindSocket
  split
  · exact .refl k s w
  rename_i v hv
  split
  · rename_i b hb
    exact touches_store hv (VirtualSocket.bind_conduct _ _ _ hb)
  · exact .refl k s w

variable [OperatingSystem κ]

theorem closeSocket_touches (ho : s.AllOpen) :
    (s.closeSocket k).Ends w fun done w' => Touches k s w done.events done.session w' := by
  unfold closeSocket
  split
  · exact Ends.pure (.refl k s w)
  rename_i v hv
  refine Ends.bind
    (VirtualSocket.close_ending s.context False False (ho k v hv) .wished (.refl w)) ?_
  intro v' w' hafter
  obtain ⟨hc, -⟩ := hafter
  refine Ends.pure ⟨fun m hm => ?_, .inr ⟨v, _, v', hv, hc, rfl⟩⟩
  rw [Table.get?_erase, if_neg hm]

omit [OperatingSystem κ] in
theorem withSocket_touches {operation : VirtualSocket → Action κ VirtualSocket.Outcome}
    (h : ∀ v, (operation v).Ends w fun o w' =>
      ∃ t, Conduct s.context False False v w t o.socket w' ∧ t.events = o.events) :
    (s.withSocket k operation).Ends w fun done w' => Touches k s w done.events done.session w' := by
  refine (withSocket_ends fun v _ => h v).mono ?_
  intro done w' hafter
  rcases hafter with ⟨hk, rfl, rfl⟩ | ⟨v, o, hv, ⟨t, hc, he⟩, rfl⟩
  · exact .refl k s w'
  · have htouch := touches_store hv hc
    rwa [he] at htouch

/-- A request concerns the socket that it names. -/
theorem carryOut_touches {request : Request} (ho : s.AllOpen) :
    (s.carryOut request).Ends w fun done w' =>
      Touches request.socketId s w done.events done.session w' := by
  cases request with
  | socket k kind => exact Ends.pure openSocket_touches
  | socketClose k => exact closeSocket_touches ho
  | bind k port => exact Ends.pure bindSocket_touches
  | connect k address port =>
    refine withSocket_touches fun v => (VirtualSocket.connect_conduct _ False False).mono ?_
    exact fun o w' h => ⟨_, h, rfl⟩
  | send k data =>
    refine withSocket_touches fun v => (VirtualSocket.send_ends s.context False False).mono ?_
    intro o w' h
    obtain ⟨he, hs⟩ := h
    rw [he]
    cases hs with
    | done hr hc | limited calls queued limit hr hh hc | refused e hr hne hc
    | unarmed d w₁ errno hr hd ht hf hc => exact ⟨_, hc, rfl⟩
  | sendto k address port data =>
    refine withSocket_touches fun v => (VirtualSocket.sendto_conduct _ False False).mono ?_
    exact fun o w' h => ⟨_, h, rfl⟩

/-- An operation concerns one socket, and the frames are those of the events it caused. -/
def Concerns (k : SocketId) (s : Session) (w : World κ) (reply : Reply) (w' : World κ) : Prop :=
  ∃ events, Touches k s w events reply.session w' ∧ reply.frames = (emit events).1

theorem onMessage_concerns {frame : Bytes} {request : Request} (ho : s.AllOpen)
    (hdecode : Request.decode frame = .ok request) :
    (s.onMessage frame).Ends w fun reply w' => Concerns request.socketId s w reply w' := by
  unfold onMessage
  split
  · exact Ends.pure ⟨[], .refl _ s w, rfl⟩
  rw [hdecode]
  have hdispatch : (s.dispatch request).Ends w fun done w' =>
      Touches request.socketId s w done.events done.session w' := by
    unfold dispatch
    exact Ends.bind (carryOut_touches ho) fun done w' h => Ends.pure (h.reap ho)
  exact Ends.bind hdispatch fun done w' h => Ends.pure ⟨_, h, rfl⟩

theorem onReady_concerns {note : Readiness} (ho : s.AllOpen) :
    (s.onReady note).Ends w fun reply w' => Concerns note.socket s w reply w' := by
  unfold onReady
  split
  · exact Ends.pure ⟨[], .refl _ s w, rfl⟩
  split
  · exact Ends.pure ⟨[], .refl _ s w, rfl⟩
  rename_i v hv
  split
  · refine Ends.bind (handleReady_ends False False.elim) ?_
    intro outcome w' h
    exact Ends.pure ⟨_, (touches_store hv h.1).reap ho, rfl⟩
  · exact Ends.pure ⟨[], .refl _ s w, rfl⟩

end SocketRelay.Session
