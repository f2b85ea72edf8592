import SocketRelay.Proofs.Session.Operation
import SocketRelay.Proofs.Socket.Reading

/-!
# What a session writes

The events that an operation causes, in order, taken from its sockets' operations before anything is
written. The frames of the operation are the frames of these events, and as far as data go that are
not empty, the events tell what the calls of the operation read.

Only draining the mailbox reads anything, and it leaves sockets alone that have no descriptor.
-/
namespace SocketRelay
open History (readings)
open Protocol (Event Request)
open SocketRelay.Action (Ends)
open VirtualSocket (Conduct)

/-- From the first world to the second just the data in these events were read, apart from data that
are empty. -/
def Backed {κ : Type} (w : World κ) (events : List Event) (w' : World κ) : Prop :=
  ∃ calls, w'.history = calls ++ w.history ∧
    substance (payloads events) = substance (readings calls)

section
variable {κ : Type} {w w' w'' : World κ} {es es' : List Event}

theorem Backed.refl (w : World κ) : Backed w [] w := ⟨[], rfl, rfl⟩

theorem Backed.trans (h : Backed w es w') (h' : Backed w' es' w'') : Backed w (es ++ es') w'' := by
  obtain ⟨calls, hc, hs⟩ := h
  obtain ⟨calls', hc', hs'⟩ := h'
  refine ⟨calls' ++ calls, by rw [hc', hc, List.append_assoc], ?_⟩
  rw [payloads_append, substance_append, hs, hs', History.readings_append, substance_append]

theorem Backed.quiet {calls : List Exchange} (hc : w'.history = calls ++ w.history)
    (hnone : readings calls = []) : Backed w [] w' := ⟨calls, hc, by rw [hnone]; rfl⟩

theorem Backed.fits (h : Backed w es w') (hb : History.ReadsBounded w'.history) :
    ∀ e ∈ es, e.fits := by
  obtain ⟨calls, hc, hs⟩ := h
  rw [hc] at hb
  exact VirtualSocket.fits_of_read hs hb

end

namespace Session
variable {κ : Type} {settled : Prop} {s s' : Session} {w w' : World κ} {l : Log} {k : SocketId}

theorem Act.backed (h : Act settled s w l s' w') : Backed w l.events w' := by
  have hsingle : ∀ (m : SocketId) (t : Traffic), Log.events [(m, t)] = t.events :=
    fun m t => List.append_nil _
  cases h with
  | acted m hv hc =>
    rw [hsingle]
    exact hc.substance_eq
  | unarmed m d hv hl ht hf hc => exact hc.substance_eq
  | handled note queue hq hv hc =>
    rw [hsingle]
    exact hc.substance_eq
  | dropped | forgot | closed => exact ⟨[], rfl, rfl⟩

theorem Course.backed (h : Course settled s w l s' w') : Backed w l.events w' := by
  induction h with
  | rest => exact .refl w
  | act _ ha ih =>
    rw [Log.events_append]
    exact ih.trans ha.backed

/-- Each frame that is written is that of one of the events. -/
theorem encode_of_mem_emit {es : List Event} {frame : Bytes} (h : frame ∈ (emit es).1) :
    ∃ e ∈ es, e.encode = .ok frame := by
  induction es with
  | nil => cases h
  | cons e es ih =>
    unfold emit at h
    dsimp only at h
    cases he : e.encode with
    | error cause =>
      rw [he] at h
      obtain ⟨e', hmem, hwrote⟩ := ih h
      exact ⟨e', List.mem_cons_of_mem _ hmem, hwrote⟩
    | ok bytes =>
      rw [he] at h
      rcases List.mem_cons.1 h with rfl | h
      · exact ⟨e, List.mem_cons_self, he⟩
      · obtain ⟨e', hmem, hwrote⟩ := ih h
        exact ⟨e', List.mem_cons_of_mem _ hmem, hwrote⟩

variable [OperatingSystem κ]

/-- The events that a frame from the client causes. -/
def eventsOfFrame (s : Session) (frame : Bytes) (w : World κ) : List Event :=
  if s.closed then []
  else
    match Request.decode frame with
    | .error _ => []
    | .ok request => (s.dispatch request w).1.events

def eventsOfNote (s : Session) (note : Readiness) (w : World κ) : List Event :=
  match s.handler? note with
  | none => []
  | some v => (v.handleReady s.context note.events w).1.2

def eventsOfNotes (s : Session) : (most : Nat) → World κ → List Event
  | 0, _ => []
  | most + 1, w =>
    match takeNote s.mailbox w with
    | (none, _) => []
    | (some note, w₁) =>
      let (first, w₂) := s.onReady note w₁
      s.eventsOfNote note w₁ ++ first.session.eventsOfNotes most w₂

def eventsOfExpiry (s : Session) (now : Nat) (order : SocketOrder) (w : World κ) : List Event :=
  match s.settings.connectTimeout with
  | none => []
  | some timeout => (expireAll now timeout (order.visit s.sockets) s w).1.2.1

/-- An operation writes the frames of these events, and they tell what it read. -/
structure Emits (w : World κ) (events : List Event) (reply : Reply) (w' : World κ) : Prop where
  frames : reply.frames = (emit events).1
  backed : Backed w events w'

theorem onMessage_emits {frame : Bytes} (ho : s.AllOpen) :
    (s.onMessage frame).Ends w (Emits w (s.eventsOfFrame frame w)) := by
  unfold onMessage eventsOfFrame
  split
  · exact Ends.pure ⟨rfl, .refl w⟩
  rename_i hc
  cases Request.decode frame with
  | error cause => exact Ends.pure ⟨rfl, .refl w⟩
  | ok request =>
    have hdone : (s.dispatch request).Ends w fun done w' => Backed w done.events w' := by
      refine (dispatch_ends False (fun _ _ _ => by simpa using hc) ho).mono ?_
      intro done w' hafter
      obtain ⟨⟨l, calls, h⟩ | ⟨k, kind, hg, he, hw⟩, -⟩ := hafter
      · rw [← h.events]
        exact h.course.backed
      · rw [he, hw]
        exact .refl w
    exact ⟨rfl, hdone⟩

theorem onReady_emits {note : Readiness} :
    (s.onReady note).Ends w (Emits w (s.eventsOfNote note w)) := by
  rw [onReady_eq]
  unfold eventsOfNote
  cases s.handler? note with
  | none => exact Ends.pure ⟨rfl, .refl w⟩
  | some v =>
    have hready : (v.handleReady s.context note.events).Ends w fun r w' => Backed w r.2 w' :=
      (handleReady_ends False False.elim).mono fun _ _ h => h.1.substance_eq
    exact ⟨rfl, hready⟩

theorem drainUpTo_emits {most : Nat} :
    (s.drainUpTo most).Ends w fun r w' => Emits w (s.eventsOfNotes most w) r.1 w' := by
  induction most generalizing s w with
  | zero => exact Ends.pure ⟨rfl, .refl w⟩
  | succ most ih =>
    unfold drainUpTo eventsOfNotes
    refine Ends.bind (p := fun result w' => (result, w') = takeNote s.mailbox w) rfl ?_
    intro result w₁ htake
    rw [← htake]
    rw [takeNote_eq] at htake
    split at htake
    · cases htake
      exact Ends.pure ⟨rfl, .refl w⟩
    rename_i note queue hq
    cases htake
    refine Ends.bind (p := fun first w₂ =>
      (first, w₂) = s.onReady note (w.withQueue s.mailbox queue)) rfl ?_
    intro first w₂ hfirst
    have hemits : (s.onReady note).Ends (w.withQueue s.mailbox queue) (Emits _ _) := onReady_emits
    unfold Ends at hemits
    rw [← hfirst] at hemits
    dsimp only
    rw [← hfirst]
    refine Ends.bind ih ?_
    rintro ⟨rest, n⟩ w₃ hrest
    have hread : Backed w _ w₂ := hemits.backed
    refine Ends.pure ⟨?_, hread.trans hrest.backed⟩
    dsimp only
    rw [hemits.frames, hrest.frames, emit_append]

/-- What an expiry tells carries no data, and if nothing expires nothing is told. -/
theorem expireAll_events {now timeout : Nat} {rows : List (SocketId × VirtualSocket)} :
    (expireAll now timeout rows s).Ends w fun r _ =>
      payloads r.2.1 = [] ∧ (r.2.2 = 0 → r.2.1 = []) := by
  induction rows generalizing s w with
  | nil => exact Ends.pure ⟨rfl, fun _ => rfl⟩
  | cons row rows ih =>
    obtain ⟨k, v⟩ := row
    unfold expireAll
    have hfirst : (v.expireConnect now timeout).Ends w fun r _ =>
        payloads r.2.1 = [] ∧ (r.2.2 = false → r.2.1 = []) := by
      unfold VirtualSocket.expireConnect
      split
      · split
        · exact Ends.bind v.failConnect_payloads fun _ _ h => Ends.pure ⟨h, fun hno => by cases hno⟩
        · exact Ends.pure ⟨rfl, fun _ => rfl⟩
      · exact Ends.pure ⟨rfl, fun _ => rfl⟩
    refine Ends.bind hfirst ?_
    rintro ⟨v', events, expired⟩ w₁ hnow
    obtain ⟨hdata, hnone⟩ : payloads events = [] ∧ (expired = false → events = []) := hnow
    refine Ends.bind ih ?_
    rintro ⟨s', later, count⟩ w₂ hlater
    obtain ⟨hdata', hnone'⟩ : payloads later = [] ∧ (count = 0 → later = []) := hlater
    refine Ends.pure ⟨?_, fun hcount => ?_⟩
    · rw [payloads_append, hdata, hdata']
      rfl
    · cases expired with
      | true => simp at hcount
      | false =>
        dsimp only
        rw [hnone rfl, hnone' (by simpa using hcount)]
        rfl

theorem expireStalledConnects_emits {now : Nat} {order : SocketOrder} (ho : s.AllOpen) :
    (s.expireStalledConnects now order).Ends w fun r w' =>
      Emits w (s.eventsOfExpiry now order w) r.1 w' := by
  unfold expireStalledConnects eventsOfExpiry
  cases s.settings.connectTimeout with
  | none => exact Ends.pure ⟨rfl, .refl w⟩
  | some timeout =>
    dsimp only
    have hevents : (expireAll now timeout (order.visit s.sockets) s).Ends w _ := expireAll_events
    have hruns : (expireAll now timeout (order.visit s.sockets) s).Ends w _ :=
      expireAll_runs False (order.distinct _) (ho.holds (order.perm _))
    refine Ends.bind
      (p := fun r w' => (r, w') = expireAll now timeout (order.visit s.sockets) s w) rfl ?_
    rintro ⟨after, events, expired⟩ w' hafter
    unfold Ends at hevents hruns
    rw [← hafter] at hevents hruns ⊢
    obtain ⟨-, hnone⟩ : _ ∧ (expired = 0 → events = []) := hevents
    obtain ⟨⟨l, hl, he, -⟩, -⟩ := hruns
    have hbacked : Backed w events w' := by
      have hcourse := hl.backed
      rwa [he] at hcourse
    dsimp only
    split
    · refine Ends.pure ⟨?_, hbacked⟩
      rw [hnone ‹_›]
      rfl
    · exact Ends.pure ⟨rfl, hbacked⟩

theorem dispatch_payloads {request : Request} :
    (s.dispatch request).Ends w fun done _ => payloads done.events = [] := by
  have hcarry : (s.carryOut request).Ends w fun done _ => payloads done.events = [] := by
    cases request with
    | socket k kind =>
      refine Ends.pure ?_
      unfold openSocket
      repeat' split
      all_goals rfl
    | socketClose k =>
      change (s.closeSocket k).Ends w _
      unfold closeSocket
      split
      · exact Ends.pure rfl
      · exact Ends.bind (p := fun _ _ => True) trivial fun _ _ _ => Ends.pure rfl
    | bind k port =>
      refine Ends.pure ?_
      unfold bindSocket
      repeat' split
      all_goals rfl
    | connect k address port =>
      refine (withSocket_ends fun v _ => v.connect_payloads).mono ?_
      intro done w' hafter
      rcases hafter with ⟨-, rfl, -⟩ | ⟨v, o, -, ho, rfl⟩
      · rfl
      · exact ho
    | send k data =>
      refine (withSocket_ends fun v _ => VirtualSocket.send_ends s.context False False).mono ?_
      intro done w' hafter
      rcases hafter with ⟨-, rfl, -⟩ | ⟨v, o, -, ⟨he, -⟩, rfl⟩
      · rfl
      · rw [he]
        rfl
    | sendto k address port data =>
      refine (withSocket_ends fun v _ => v.sendto_payloads).mono ?_
      intro done w' hafter
      rcases hafter with ⟨-, rfl, -⟩ | ⟨v, o, -, ho, rfl⟩
      · rfl
      · exact ho
  exact Ends.bind hcarry fun _ _ h => Ends.pure h

theorem eventsOfFrame_payloads (s : Session) (frame : Bytes) (w : World κ) :
    payloads (s.eventsOfFrame frame w) = [] := by
  unfold eventsOfFrame
  split
  · rfl
  · split
    · rfl
    · exact dispatch_payloads

theorem eventsOfExpiry_payloads (s : Session) (now : Nat) (order : SocketOrder) (w : World κ) :
    payloads (s.eventsOfExpiry now order w) = [] := by
  unfold eventsOfExpiry
  split
  · rfl
  · rename_i timeout _
    have hevents : (expireAll now timeout (order.visit s.sockets) s).Ends w _ := expireAll_events
    exact hevents.1

theorem drainUpTo_unregistered {most : Nat} {v : VirtualSocket} (hv : s.sockets.get? k = some v)
    (ht : v.token = none) (hc : v.closed = false) :
    (s.drainUpTo most).Ends w fun r _ => r.1.session.sockets.get? k = some v := by
  induction most generalizing s w with
  | zero => exact Ends.pure hv
  | succ most ih =>
    unfold drainUpTo
    refine Ends.bind (p := fun _ _ => True) trivial fun taken w₁ _ => ?_
    cases taken with
    | none => exact Ends.pure hv
    | some note =>
      have hready : (s.onReady note).Ends w₁ fun reply _ =>
          reply.session.sockets.get? k = some v := by
        rw [onReady_eq]
        cases hu : s.handler? note with
        | none => exact Ends.pure hv
        | some u =>
          obtain ⟨-, hu, hut⟩ := handler?_eq_some hu
          have hne : k ≠ note.socket := by
            rintro rfl
            cases hv.symm.trans hu
            rw [ht] at hut
            cases hut
          refine Ends.bind (p := fun _ _ => True) trivial fun r w₂ _ => Ends.pure ?_
          change (s.store note.socket r.1).reap.sockets.get? k = some v
          rw [reap, Table.get?_filter, store, Table.get?_insert, if_neg hne, hv]
          simp [Option.filter, hc]
      exact Ends.bind hready fun first w₂ h => Ends.bind (ih h) fun _ _ h => Ends.pure h

/-- What a socket reads when it handles a note is told, be it empty or not. The socket stays in the
table as it is, unless there was a hangup, a call failed that it cannot do without, or it was not
registered. -/
def Undisturbed (s : Session) (note : Readiness) (v : VirtualSocket) (w : World κ) : Prop :=
  (s.onReady note).Ends w fun reply w' => ∃ calls, w'.history = calls ++ w.history ∧
    payloads (s.eventsOfNote note w) = readings calls ∧
    (reply.session.sockets.get? note.socket = some v ∨ note.events.hangup ∨
      (∃ d, v.descriptor = some d ∧ w.reactor.table.get? d = none) ∨ ∃ x ∈ calls, x.breaks)

/-- Datagram sockets outlive empty datagrams. -/
theorem onReady_undisturbed {note : Readiness} {v : VirtualSocket}
    (hh : s.handler? note = some v) (hv : v.Sound) (hk : v.kind = .udp) :
    s.Undisturbed note v w := by
  obtain ⟨-, -, ht⟩ := handler?_eq_some hh
  have hheld : v.descriptor ≠ none := by
    intro hn
    rw [(hv.bare hn).1] at ht
    cases ht
  obtain ⟨d, hd⟩ := Option.ne_none_iff_exists'.1 hheld
  have hready : (v.handleReady s.context note.events).Ends w _ :=
    VirtualSocket.handleReady_datagram note.events hv hk hd
  obtain ⟨calls, hcalls, hpayloads, hwhy⟩ := hready
  unfold Undisturbed eventsOfNote
  rw [onReady_eq, hh]
  refine Ends.bind (p := fun r w' => (r, w') = v.handleReady s.context note.events w) rfl ?_
  intro r w' hr
  dsimp only
  rw [← hr] at hcalls hpayloads hwhy ⊢
  refine Ends.pure ⟨calls, hcalls, hpayloads, ?_⟩
  rcases hwhy with hsame | hhangup | hnone | hbreaks
  · left
    change (s.store note.socket r.1).reap.sockets.get? note.socket = some v
    rw [hsame, reap, Table.get?_filter, store, Table.get?_insert_self]
    simp [Option.filter, (hv.held hheld).2]
  · exact .inr (.inl hhangup)
  · exact .inr (.inr (.inl ⟨d, hd, hnone⟩))
  · exact .inr (.inr (.inr hbreaks))

end Session

end SocketRelay
