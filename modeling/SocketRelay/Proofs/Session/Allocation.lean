import Mathlib.Data.Finset.Card
import SocketRelay.Proofs.Protocol.Message
import SocketRelay.Proofs.Session.Operation

/-!
# Which numbers are in use

A session's table says which numbers are taken, and by which kind of socket. A number becomes free
again when its socket closes, and a socket closes exactly when the client has wished so or is told
that the socket is gone. So what a course leaves in the table can be read off its log.
-/
namespace SocketRelay
open Protocol (Event Request)

/-- The socket that says this is gone. -/
def Protocol.Event.isFinal : Event → Bool
  | .recv _ _ => false
  | .closed _ => true
  | .connected _ success => !success

theorem Protocol.Event.fits_of_isFinal {e : Event} (h : e.isFinal) : e.fits := by
  cases e with
  | recv => cases h
  | closed | connected => exact Event.fits_of_dataless rfl

/-- This is the traffic of a socket that is gone. -/
def Traffic.Ends (t : Traffic) : Prop := t.dismissed ∨ ∃ e ∈ t.events, e.isFinal

namespace Traffic

@[simp] theorem not_ends_nothing : ¬ Ends {} := by simp [Ends]

@[simp] theorem ends_append (a b : Traffic) : (a ++ b).Ends ↔ a.Ends ∨ b.Ends := by
  simp only [Ends, dismissed_append, events_append, List.mem_append, Bool.or_eq_true]
  constructor
  · intro h
    rcases h with (h | h) | ⟨e, he | he, hf⟩
    · exact .inl (.inl h)
    · exact .inr (.inl h)
    · exact .inl (.inr ⟨e, he, hf⟩)
    · exact .inr (.inr ⟨e, he, hf⟩)
  · intro h
    rcases h with (h | ⟨e, he, hf⟩) | (h | ⟨e, he, hf⟩)
    · exact .inl (.inl h)
    · exact .inr ⟨e, .inl he, hf⟩
    · exact .inl (.inr h)
    · exact .inr ⟨e, .inr he, hf⟩

end Traffic

namespace Log
variable {l : Log} {k : SocketId}

theorem events_of_wordless (h : l.events = []) : (l.of k).events = [] := by
  induction l with
  | nil => rfl
  | cons a l ih =>
    obtain ⟨ha, hl⟩ := List.append_eq_nil_iff.1 h
    rw [of_cons, Traffic.events_append, ih hl, List.append_nil]
    split
    · exact ha
    · rfl

/-- Whether a socket is gone can be told from all events together. -/
theorem Named.ends_iff (h : l.Named) : (l.of k).Ends ↔
    (l.of k).dismissed ∨ ∃ e ∈ l.events, e.isFinal ∧ e.socketId = k := by
  unfold Traffic.Ends
  rw [← h.events_of]
  simp only [List.mem_filter, decide_eq_true_eq, and_assoc, and_comm (a := _ = k)]

end Log

namespace VirtualSocket
variable {κ : Type} {ctx : SocketContext} {settled steady : Prop} {v v' : VirtualSocket}
  {t : Traffic}

theorem Ending.ends {calls : List Exchange} (h : Ending ctx settled v calls t) : t.Ends := by
  cases h with
  | wished => exact .inl rfl
  | failed | refused | gone | unflushed | finished => exact .inr ⟨_, List.mem_singleton.2 rfl, rfl⟩

/-- A deed closes its socket exactly if its traffic says so. -/
theorem Deed.closed_iff {r r' : Reactor} {calls : List Exchange}
    (h : Deed ctx settled steady v r calls t v' r') : v'.closed ↔ t.Ends := by
  have hopen := h.open
  cases h with
  | opened d setup hd hc hb => cases hb <;> simp [Traffic.Ends, Event.isFinal, hopen]
  | ended hc he => exact ⟨fun _ => he.ends, fun _ => rfl⟩
  | _ => simp [Traffic.Ends, Event.isFinal, hopen]

theorem Conduct.open_iff {w w' : World κ} (h : Conduct ctx settled steady v w t v' w') :
    v'.closed = false ↔ v.closed = false ∧ ¬ t.Ends := by
  induction h with
  | rest => simp
  | deed _ hd _ ih =>
    have hbefore := ih.1 hd.open
    rw [← Bool.not_eq_true, hd.closed_iff, Traffic.ends_append]
    exact ⟨fun h => ⟨hbefore.1, fun he => he.elim hbefore.2 h⟩, fun h he => h.2 (.inr he)⟩

end VirtualSocket

namespace Session
open SocketRelay.Action (Ends)
open VirtualSocket (Conduct)
variable {κ : Type} {settled : Prop} {s s' : Session} {w w' : World κ} {l : Log} {k : SocketId}
variable {kind : SocketKind}

/-- The numbers in use, with their kinds. -/
def allocations (s : Session) : Finset (SocketId × SocketKind) :=
  (s.sockets.rows.map fun row => (row.1, row.2.kind)).toFinset

theorem mem_allocations : (k, kind) ∈ s.allocations ↔
    ∃ v, s.sockets.get? k = some v ∧ v.kind = kind := by
  simp only [allocations, List.mem_toFinset, List.mem_map, Prod.exists, Prod.mk.injEq,
    Table.get?_eq_some_iff]
  constructor
  · intro h
    obtain ⟨j, v, hv, rfl, hkind⟩ := h
    exact ⟨v, hv, hkind⟩
  · intro h
    obtain ⟨v, hv, hkind⟩ := h
    exact ⟨k, v, hv, rfl, hkind⟩

theorem not_mem_numbers : k ∉ s.allocations.image Prod.fst ↔ s.sockets.get? k = none := by
  simp only [Finset.mem_image, Prod.exists, exists_and_right, exists_eq_right, mem_allocations]
  rw [Option.eq_none_iff_forall_not_mem]
  constructor
  · intro h v hv
    exact h ⟨v.kind, v, hv, rfl⟩
  · intro h hk
    obtain ⟨kind, v, hv, -⟩ := hk
    exact h v hv

/-- No number is in use twice. -/
theorem card_allocations (s : Session) : s.allocations.card = s.socketCount := by
  have hdistinct : (s.sockets.rows.map fun row => (row.1, row.2.kind)).Nodup := by
    refine List.Nodup.of_map Prod.fst ?_
    rw [List.map_map]
    exact s.sockets.distinct
  rw [allocations, List.toFinset_card_of_nodup hdistinct, List.length_map]
  rfl

theorem allocations_store (hk : s.sockets.get? k = none) (v : VirtualSocket) :
    (s.store k v).allocations = insert (k, v.kind) s.allocations := by
  ext ⟨j, kind⟩
  rw [Finset.mem_insert, mem_allocations, mem_allocations, store]
  simp only [Table.get?_insert, Prod.mk.injEq]
  split
  · rename_i hjk
    simp [hjk, hk, eq_comm]
  · rename_i hjk
    simp [hjk]

/-- An open socket of this kind has the number. -/
def Live (s : Session) (k : SocketId) (kind : SocketKind) : Prop :=
  ∃ v, s.sockets.get? k = some v ∧ v.closed = false ∧ v.kind = kind

theorem AllOpen.live_iff (ho : s.AllOpen) : s.Live k kind ↔ (k, kind) ∈ s.allocations := by
  rw [mem_allocations]
  constructor
  · intro h
    obtain ⟨v, hv, -, hkind⟩ := h
    exact ⟨v, hv, hkind⟩
  · intro h
    obtain ⟨v, hv, hkind⟩ := h
    exact ⟨v, hv, ho k v hv, hkind⟩

theorem live_store {m : SocketId} {v v' : VirtualSocket} {t : Traffic}
    (hm : s.sockets.get? m = some v) (hkind : v'.kind = v.kind)
    (hopen : v'.closed = false ↔ v.closed = false ∧ ¬ t.Ends) :
    (s.store m v').Live k kind ↔ s.Live k kind ∧ ¬ (Log.of [(m, t)] k).Ends := by
  unfold Live store
  rw [Log.of_single, Table.get?_insert]
  by_cases hk : k = m
  · rw [if_pos hk, if_pos hk.symm, hk, hm]
    simp only [Option.some.injEq, exists_eq_left', hopen, hkind]
    exact and_right_comm
  · rw [if_neg hk, if_neg (Ne.symm hk)]
    simp

theorem Act.live_iff (h : Act settled s w l s' w') :
    s'.Live k kind ↔ s.Live k kind ∧ ¬ (l.of k).Ends := by
  cases h with
  | acted m hm hc => exact live_store hm hc.kind_eq hc.open_iff
  | unarmed m d hm hd hc hf hc' =>
    refine live_store hm hc'.kind_eq (hc'.open_iff.trans ?_)
    simp [Traffic.Ends]
  | handled note queue hq hv hc =>
    exact live_store (handler?_eq_some hv).2.1 hc.kind_eq hc.open_iff
  | dropped => simp
  | closed => simp [Live]
  | forgot p hp =>
    rw [Log.of_nil, and_iff_left Traffic.not_ends_nothing]
    unfold Live
    simp only [Table.get?_filter, Option.filter_eq_some_iff]
    constructor
    · intro hlive
      obtain ⟨v, ⟨hv, -⟩, hrest⟩ := hlive
      exact ⟨v, hv, hrest⟩
    · intro hlive
      obtain ⟨v, hv, hopen, hkind⟩ := hlive
      refine ⟨v, ⟨hv, ?_⟩, hopen, hkind⟩
      by_contra hforgotten
      have hclosed := hp k v hv (Bool.eq_false_of_not_eq_true hforgotten)
      rw [hopen] at hclosed
      cases hclosed

theorem Course.live_iff (h : Course settled s w l s' w') :
    s'.Live k kind ↔ s.Live k kind ∧ ¬ (l.of k).Ends := by
  induction h with
  | rest => simp
  | act _ ha ih => rw [ha.live_iff, ih, Log.of_append, Traffic.ends_append, not_or, and_assoc]

variable [OperatingSystem κ]

theorem onMessage_granted {frame : Bytes} {code : Int64} (hc : s.closed = false)
    (hdecode : Request.decode frame = .ok (.socket k code))
    (hkind : SocketKind.ofWire? code = some kind) (hsize : s.socketCount < s.settings.maxSockets)
    (hfree : s.sockets.get? k = none) :
    (s.onMessage frame).Ends w fun reply _ => reply.session.sockets.get? k ≠ none := by
  have hopen : s.openSocket k code =
      { session := s.store k { id := k, kind }, notices := [.allocated] } := by
    unfold openSocket
    rw [if_neg (Nat.not_le.2 hsize), hkind]
    simp [Table.contains, hfree]
  unfold onMessage
  rw [hdecode]
  simp only [hc, Bool.false_eq_true, if_false]
  refine Ends.bind (p := fun (done : Dispatched) _ =>
    done.session = (s.openSocket k code).session.reap) rfl ?_
  intro done w' hdone
  refine Ends.pure ?_
  change done.session.sockets.get? k ≠ none
  rw [hdone, hopen]
  simp [reap, store, Table.get?_filter]

theorem onMessage_freed {frame : Bytes} (hc : s.closed = false)
    (hdecode : Request.decode frame = .ok (.socketClose k)) :
    (s.onMessage frame).Ends w fun reply _ => reply.session.sockets.get? k = none := by
  have hclose : (s.closeSocket k).Ends w fun done _ => done.session.sockets.get? k = none := by
    unfold closeSocket
    split
    · exact Ends.pure ‹_›
    · exact Ends.bind (p := fun _ _ => True) trivial fun _ _ _ =>
        Ends.pure (Table.get?_erase_self _ _)
  unfold onMessage
  rw [hdecode]
  simp only [hc, Bool.false_eq_true, if_false]
  refine Ends.bind (p := fun done _ => done.session.sockets.get? k = none) ?_
    fun _ _ h => Ends.pure h
  refine Ends.bind hclose fun done w' h => Ends.pure ?_
  simp [reap, Table.get?_filter, h]

end Session

end SocketRelay
