import SocketRelay.Proofs.Relay.Direction
import SocketRelay.Proofs.Relay.Isolation
import SocketRelay.Proofs.Relay.Readiness
import SocketRelay.Proofs.Session.Rest
import SocketRelay.Proofs.Socket.Arming

/-!
# One note at a time

A registration is armed for one report, and the report disarms it. So of each registration either a
note waits in its mailbox, or it is armed and may still be reported, or neither; and while a note
waits the reactor posts no other one. What keeps it so: a registration is armed again only once its
note has been handled, or if the note did not fit into the mailbox.

There is one exception. A request to send whose bytes have to wait arms the registration of its
stream at once, whether a note about it waits or not. The result below is about runs in which no
request overtakes a note in this way.

Assumed of the system: `ReportsArmed`, `SendsWithin`, and that opened descriptors are fresh. Tokens
are told apart as long as not more registrations have been made than there are generations.
-/
namespace SocketRelay
open History (OpensFresh ReportsArmed SendsWithin armed registrations issued)
open Protocol (Request)
open SocketRelay.Action (Ends)

namespace World
variable {κ : Type}

/-- How many notes with a token wait in a mailbox. -/
def waiting (w : World κ) (m : MailboxId) (token : Token) : Nat :=
  (w.mailbox m).queue.countP fun note => note.token = token

/-- The notes that wait, and the one that the system may still report. -/
def outstanding (w : World κ) (m : MailboxId) (token : Token) : Nat :=
  w.waiting m token + if armed token.descriptor w.history then 1 else 0

variable {w w' : World κ} {m : MailboxId} {token : Token}

theorem waiting_le_outstanding : w.waiting m token ≤ w.outstanding m token := Nat.le_add_right _ _

theorem outstanding_le_one (h : w.waiting m token = 0) : w.outstanding m token ≤ 1 := by
  unfold outstanding
  split <;> omega

theorem waiting_le_of_suffix (h : (w'.mailbox m).queue <:+ (w.mailbox m).queue) :
    w'.waiting m token ≤ w.waiting m token := h.sublist.countP_le

theorem waiting_of_mailboxes (h : w'.mailboxes = w.mailboxes) :
    w'.waiting m token = w.waiting m token := by
  unfold waiting
  rw [mailbox_of_mailboxes h]

theorem waiting_posted {j : MailboxId} {note : Readiness} {box : Mailbox}
    (h : (w.mailbox j).post? note = some box) :
    waiting { w with mailboxes := w.mailboxes.insert j box } m token ≤
      w.waiting m token + if note.token = token then 1 else 0 := by
  unfold waiting mailbox
  simp only [Table.get?_insert]
  split
  · rename_i hmj
    rw [Option.getD_some, Mailbox.queue_post h, hmj, List.countP_append, List.countP_singleton]
    simp [mailbox]
  · omega

theorem outstanding_le_of (hq : w'.waiting m token ≤ w.waiting m token)
    (ha : armed token.descriptor w'.history → armed token.descriptor w.history) :
    w'.outstanding m token ≤ w.outstanding m token := by
  unfold outstanding
  split
  · rw [if_pos (ha ‹_›)]
    omega
  · omega

end World

namespace Reactor
open World (waiting_le_of_suffix outstanding_le_one)
variable {κ : Type} {w w' : World κ} {m : MailboxId} {token : Token}
variable {notes : List (MailboxId × Readiness)}

def bearing (token : Token) (notes : List (MailboxId × Readiness)) : Nat :=
  notes.countP fun p => p.2.token = token

theorem bearing_cons (p : MailboxId × Readiness) :
    bearing token (p :: notes) = bearing token notes + if p.2.token = token then 1 else 0 := by
  simp [bearing, List.countP_cons]

/-- A note that is posted waits, one that does not fit arms its registration. -/
theorem Delivery.outstanding_le {g : Registration} (hd : Delivery w notes w')
    (hg : w.reactor.table.get? g.token.descriptor = some g)
    (h : w.outstanding m g.token + bearing g.token notes ≤ 1) : w'.outstanding m g.token ≤ 1 := by
  induction hd with
  | done => exact h
  | @posted w j note box rest w' hpost _ ih =>
    refine ih hg ?_
    have hposted : World.waiting { w with mailboxes := w.mailboxes.insert j box } m g.token ≤
        w.waiting m g.token + if note.token = g.token then 1 else 0 := World.waiting_posted hpost
    rw [bearing_cons] at h
    unfold World.outstanding at h ⊢
    dsimp only at h ⊢
    omega
  | stale _ _ ih =>
    refine ih hg (Nat.le_trans ?_ h)
    rw [bearing_cons]
    omega
  | @rearmed w w₁ j note registration rest w' answer hr ht hm _ ih =>
    refine ih (hm.reactor ▸ hg) ?_
    rw [bearing_cons] at h
    unfold World.outstanding at h ⊢
    rw [World.waiting_of_mailboxes hm.mailboxes]
    by_cases hnote : note.token = g.token
    · rw [if_pos hnote] at h
      split <;> omega
    · have hne : note.token.descriptor ≠ g.token.descriptor := by
        intro hd
        rw [hd] at hr
        cases hr.symm.trans hg
        exact hnote ht.symm
      have harmed : armed g.token.descriptor w₁.history = armed g.token.descriptor w.history := by
        rw [hm.history, List.singleton_append]
        unfold armed
        cases answer with
        | ok => rw [History.watch?, if_neg hne]
        | error e => rfl
      rw [harmed]
      omega

/-- The notes of a wait carry tokens that it reported, each as often. -/
theorem bearing_le (token : Token) (table : Table Descriptor Registration)
    (reports : List (UInt32 × Token)) :
    bearing token (reports.filterMap (note? table)) ≤ (reports.map Prod.snd).count token := by
  induction reports with
  | nil => exact Nat.le_refl 0
  | cons report reports ih =>
    rw [List.map_cons, List.count_cons, List.filterMap_cons]
    split
    · omega
    · rename_i p hp
      obtain ⟨ht, -, -⟩ := note?_eq_some hp
      rw [bearing_cons, ht]
      simp only [beq_iff_eq]
      omega

end Reactor

/-- A request to send arms its own stream, and only if nothing waited there before. -/
theorem Session.send_rearms {κ : Type} [OperatingSystem κ] {s : Session} {w : World κ}
    (ho : s.AllOpen) (k : SocketId) (data : Bytes) :
    (s.dispatch (.send k data)).Ends w fun done w' => ∃ calls, w'.history = calls ++ w.history ∧
      ∀ e ∈ calls, ∀ d, e.rearmed? = some d → ∃ v v', s.sockets.get? k = some v ∧
        v.descriptor = some d ∧ v.outbound = [] ∧ done.session.sockets.get? k = some v' ∧
        (SendsWithin w'.history → v'.outbound ≠ []) := by
  refine Ends.bind (withSocket_ends fun v _ => VirtualSocket.send_rearms) ?_
  intro done w' hafter
  rcases hafter with ⟨-, rfl, rfl⟩ | ⟨v, o, hv, ⟨hclosed, calls, hcalls, hrearmed⟩, rfl⟩
  · exact Ends.pure ⟨[], rfl, nofun⟩
  · refine Ends.pure ⟨calls, hcalls, fun e he d hd => ?_⟩
    obtain ⟨hheld, hempty, hleft⟩ := hrearmed e he d hd
    refine ⟨v, o.socket, hv, hheld, hempty, ?_, hleft⟩
    have hopen : o.socket.closed = false := hclosed.trans (ho k v hv)
    simp [reap, store, Table.get?_filter, Option.filter, hopen]

namespace Relay
variable {κ : Type} {r r' : Relay κ} {i : Nat} {s : Session} {k : SocketId} {token : Token}
variable {x : Input κ}

/-- Of every registration a note waits, or a report may come, or neither; and the tokens of rows and
of notes have been issued. -/
structure Punctual (r : Relay κ) : Prop where
  allOpen : r.AllOpen
  owned : r.Owned
  counted : r.Counted
  listed : ∀ i k token, r.Enrolled i k token → issued token r.world.history ≠ 0
  stamped : ∀ m, ∀ note ∈ (r.world.mailbox m).queue, issued note.token r.world.history ≠ 0
  once : ∀ i k token, r.Enrolled i k token → r.world.outstanding i token ≤ 1

/-- A row keeps its place in the list, so it is armed only by having been or by being armed
again. -/
theorem Owned.armed_or_rearmed (h : r'.Owned) {calls : List Exchange}
    (hc : r'.world.history = calls ++ r.world.history) (he : r'.Enrolled i k token)
    (hsame : issued token r'.world.history = issued token r.world.history)
    (ha : armed token.descriptor r'.world.history) : armed token.descriptor r.world.history ∨
      ∃ e ∈ calls, e.rearmed? = some token.descriptor := by
  obtain ⟨interest, hrow⟩ := he
  obtain ⟨-, -, before, hw⟩ := h.matched.listed token.descriptor _ hrow
  have harmed : before := by simpa [armed, hw] using ha
  rw [hc] at hw hsame
  rcases History.armed_append hw harmed with hb | hr | ⟨e, he, hg⟩
  · exact .inl hb
  · exact .inr hr
  · have hlt := History.issued_of_granted he hg r.world.history
    have hle := History.issued_le token r.world.history
    dsimp only at hlt
    omega

theorem Granted.new (hg : Granted r r' i k token) (h : r.Counted) (h' : r'.Counted)
    (hb : registrations r'.world.history ≤ UInt32.size) : issued token r.world.history = 0 := by
  refine Nat.eq_zero_of_not_pos fun hissued => ?_
  have hfar := h.granted_apart h' hissued (Nat.le_refl _) hg
  have hle := History.issued_le token r'.world.history
  omega

theorem Since.issued_ne_zero (hs : Since r r') (h : issued token r.world.history ≠ 0) :
    issued token r'.world.history ≠ 0 := by
  have hle := hs.issued_le token
  omega

theorem Since.listed (hs : Since r r')
    (h : ∀ i k token, r.Enrolled i k token → issued token r.world.history ≠ 0) (i : Nat)
    (k : SocketId) (token : Token) (he : r'.Enrolled i k token) :
    issued token r'.world.history ≠ 0 := by
  rcases hs.rows i k token he with ⟨hold, hsame⟩ | hg
  · rw [hsame]
    exact h i k token hold
  · exact Nat.ne_of_gt (Nat.zero_lt_of_lt hg.2)

/-- No note has come, and no row has been armed but for those of which no note waits. -/
theorem Punctual.since (h : r.Punctual) (ho : r'.AllOpen) (howned : r'.Owned)
    (hcounted : r'.Counted) (hs : Since r r')
    (hq : ∀ m, (r'.world.mailbox m).queue <:+ (r.world.mailbox m).queue)
    (hb : registrations r'.world.history ≤ UInt32.size)
    (ha : ∀ i k token, r.Enrolled i k token → r'.Enrolled i k token →
      issued token r'.world.history = issued token r.world.history →
      armed token.descriptor r'.world.history →
      armed token.descriptor r.world.history ∨ r'.world.waiting i token = 0) : r'.Punctual := by
  refine ⟨ho, howned, hcounted, hs.listed h.listed,
    fun m note hnote => hs.issued_ne_zero (h.stamped m note ((hq m).subset hnote)),
    fun i k token he => ?_⟩
  rcases hs.rows i k token he with ⟨hold, hsame⟩ | hg
  · have honce := h.once i k token hold
    have hle : r'.world.waiting i token ≤ r.world.waiting i token :=
      World.waiting_le_of_suffix (hq i)
    by_cases harmed : armed token.descriptor r'.world.history
    · rcases ha i k token hold he hsame harmed with hb | hnone
      · exact Nat.le_trans (World.outstanding_le_of hle fun _ => hb) honce
      · exact World.outstanding_le_one hnone
    · exact Nat.le_trans (World.outstanding_le_of hle fun h => (harmed h).elim) honce
  · refine World.outstanding_le_one (List.countP_eq_zero.2 fun note hnote ht => ?_)
    have hissued := h.stamped i note ((hq i).subset hnote)
    rw [of_decide_eq_true ht] at hissued
    exact hissued (hg.new h.counted hcounted hb)

theorem punctual_start (system : κ) (maxEvents : Nat) : (start system maxEvents).Punctual := by
  refine ⟨allOpen_start system maxEvents, owned_start system maxEvents,
    counted_start system maxEvents, fun i k token he => ?_, nofun, fun i k token he => ?_⟩
  · obtain ⟨interest, he⟩ := he
    cases he
  · obtain ⟨interest, he⟩ := he
    cases he

/-- What waits or may come of a row once a wait has returned, with what the wait has brought. -/
theorem Punctual.waited (h : r.Punctual) {reports : List (UInt32 × Token)} {most : Nat}
    {rx : Reactor} {w : World κ} (he : r.Enrolled i k token)
    (hm : r.world.Moved [⟨.epollWait most, .ok reports⟩] rx w) (hr : ReportsArmed w.history) :
    w.outstanding i token +
      Reactor.bearing token (reports.filterMap (Reactor.note? r.world.reactor.table)) ≤ 1 := by
  have honce := h.once i k token he
  have hbearing := Reactor.bearing_le token r.world.reactor.table reports
  obtain ⟨interest, hrow⟩ := he
  obtain ⟨-, -, before, hw⟩ := h.owned.matched.listed token.descriptor _ hrow
  have hbefore : armed token.descriptor r.world.history = before := by simp [armed, hw]
  rw [hm.history] at hr
  obtain ⟨hnodup, hreports⟩ := of_decide_eq_true hr.1
  unfold World.outstanding at honce ⊢
  rw [World.waiting_of_mailboxes hm.mailboxes, hm.history, List.singleton_append,
    History.armed_wait hw]
  rw [hbefore] at honce
  by_cases hreported : token ∈ reports.map Prod.snd
  · obtain ⟨report, hmem, rfl⟩ := List.mem_map.1 hreported
    have harmed : before = true := by simpa [hw] using hreports report hmem
    have hcount := hnodup.count (a := report.2)
    rw [if_pos hreported] at hcount
    simp only [harmed, if_true] at honce
    simp only [hreported, not_true, decide_false, Bool.and_false, Bool.false_eq_true, if_false]
    omega
  · have hcount := List.count_eq_zero_of_not_mem hreported
    simp only [hreported, not_false_iff, decide_true, Bool.and_true]
    omega

variable [OperatingSystem κ]

theorem Punctual.poll (h : r.Punctual) (hf : OpensFresh (r.step .poll).1.world.history)
    (hr : ReportsArmed (r.step .poll).1.world.history) : (r.step .poll).1.Punctual := by
  obtain ⟨l, ht⟩ := step_turn False h.allOpen .poll False.elim
  have ho := ht.allOpen h.allOpen
  have howned := h.owned.turn ht hf
  obtain ⟨hcounted, hsince⟩ := h.counted.turn ht
  have hstamped : ∀ m, ∀ note ∈ ((r.step .poll).1.world.mailbox m).queue,
      issued note.token (r.step .poll).1.world.history ≠ 0 := by
    intro m note hnote
    refine hsince.issued_ne_zero ?_
    rcases List.mem_append.1 ((queue_step h.allOpen .poll m).subset hnote) with hold | hnew
    · exact h.stamped m note hold
    · obtain ⟨-, bits, -, -, he⟩ := reported_of_delivered hnew
      exact h.listed m note.socket note.token he
  refine ⟨ho, howned, hcounted, hsince.listed h.listed, hstamped, fun i k token he => ?_⟩
  rcases Reactor.pollOnce_ends (w := r.world) with ⟨e, hm⟩ | ⟨reports, w₁, hm, hd⟩
  · have hold : r.Enrolled i k token := by
      obtain ⟨interest, hrow⟩ := he
      exact ⟨interest, hm.reactor ▸ hrow⟩
    refine Nat.le_trans (World.outstanding_le_of ?_ fun ha => ?_) (h.once i k token hold)
    · exact Nat.le_of_eq (World.waiting_of_mailboxes hm.mailboxes)
    · change armed _ (Reactor.pollOnce r.world).2.history = true at ha
      rwa [hm.history] at ha
  · have hreactor := hd.reactor.trans hm.reactor
    have hold : r.Enrolled i k token := by
      obtain ⟨interest, hrow⟩ := he
      exact ⟨interest, hreactor ▸ hrow⟩
    obtain ⟨calls, hcalls, -⟩ := hd.calls
    have hr₁ : ReportsArmed w₁.history := by
      have hr' : ReportsArmed (Reactor.pollOnce r.world).2.history := hr
      rw [hcalls] at hr'
      exact hr'.of_append
    obtain ⟨interest, hrow⟩ := hold
    exact hd.outstanding_le (g := ⟨token, k, interest, i⟩) (hm.reactor ▸ hrow)
      (h.waited ⟨interest, hrow⟩ hm hr₁)

/-- A note that is taken no longer waits, so its socket may arm its own registration. -/
theorem Punctual.noted (h : r.Punctual) {note : Readiness} {queue : List Readiness}
    (hs : r.sessions[i]? = some s) (hq : (r.world.mailbox s.mailbox).queue = note :: queue) :
    (s.onReady note).Ends (r.world.withQueue s.mailbox queue) fun reply w' =>
      OpensFresh w'.history → registrations w'.history ≤ UInt32.size →
        (r.put i reply.session w').Punctual := by
  have hmailbox : s.mailbox = i := (h.owned.formed i s hs).mailbox
  have hruns := Session.onReady_runs False (h.allOpen i s hs) hq False.elim
  have hconducts := s.onReady_conducts note (r.world.withQueue s.mailbox queue)
  unfold Ends at hruns hconducts ⊢
  generalize s.onReady note (r.world.withQueue s.mailbox queue) = outcome at hruns hconducts ⊢
  obtain ⟨reply, w'⟩ := outcome
  obtain ⟨l, hruns, -⟩ := hruns
  dsimp only at hruns hconducts ⊢
  intro hf hb
  have howned : (r.put i reply.session w').Owned :=
    course_preserves (p := fun r _ => r.Owned) (fun _ _ => History.Throughout.of_append)
      (fun h hs ha hf => h.act hs ha hf) hs hruns.course h.owned hf
  have hfollowed := h.counted.course hs hruns.course
  refine h.since (h.allOpen.put hs hruns.allOpen) howned hfollowed.counted hfollowed.within.toSince
    (fun m => hruns.course.queue_suffix m) hb fun j m token hold he hsame ha => ?_
  rcases hconducts with ⟨-, rfl⟩ | ⟨v, t, v', hhandler, hc, -⟩
  · exact .inl ha
  obtain ⟨-, hv, htoken⟩ := Session.handler?_eq_some hhandler
  obtain ⟨interest, hrow⟩ := hold
  by_cases hown : j = i ∧ m = note.socket
  · obtain ⟨rfl, rfl⟩ := hown
    obtain ⟨u, hu, -, ht⟩ := h.owned.matched.owner token.descriptor _ hrow
    cases hu.symm.trans ((socket?_of_session hs note.socket).trans hv)
    cases ht.symm.trans htoken
    rw [hmailbox] at hq hc
    have honce : r.world.waiting j note.token ≤ 1 :=
      Nat.le_trans World.waiting_le_outstanding (h.once j note.socket note.token ⟨interest, hrow⟩)
    refine .inr ?_
    change w'.waiting j note.token = 0
    unfold World.waiting at honce ⊢
    rw [World.mailbox_of_mailboxes hc.mailboxes, World.mailbox_withQueue, if_pos rfl]
    simp only [hq, List.countP_cons, decide_true, if_true] at honce
    dsimp only
    omega
  · refine .inl ?_
    have hbeside := ((h.owned.withQueue s.mailbox queue).beside_conduct hs hv hc hf).1
    have hwatch := hbeside.watches token.descriptor ⟨token, m, interest, j⟩ hown hrow
    unfold armed at ha ⊢
    exact (congrArg (Option.any _) hwatch) ▸ ha

theorem Punctual.drained (h : r.Punctual) (hs : r.sessions[i]? = some s) (n : Nat)
    (hf : OpensFresh (s.drained n r.world).2.history)
    (hb : registrations (s.drained n r.world).2.history ≤ UInt32.size) :
    (r.put i (s.drained n r.world).1 (s.drained n r.world).2).Punctual := by
  induction n generalizing r s with
  | zero =>
    change (r.put i s r.world).Punctual
    rwa [put_same hs]
  | succ n ih =>
    cases hq : (r.world.mailbox s.mailbox).queue with
    | nil =>
      rw [Session.drained_of_empty hq, put_same hs]
      exact h
    | cons note queue =>
      rw [Session.drained_succ hq] at hf hb ⊢
      have hnoted := h.noted hs hq
      unfold Ends at hnoted
      generalize s.onReady note (r.world.withQueue s.mailbox queue) = outcome at hf hb hnoted ⊢
      obtain ⟨first, w₁⟩ := outcome
      dsimp only at hf hb hnoted ⊢
      obtain ⟨calls, hc, -⟩ := first.session.makes_drainUpTo n w₁
      have hc : (first.session.drained n w₁).2.history = calls ++ w₁.history := hc
      have hput : (r.put i first.session w₁).sessions[i]? = some first.session := by
        rw [sessions_put hs, if_pos rfl]
      have hf₁ : OpensFresh w₁.history := by
        rw [hc] at hf
        exact hf.of_append
      have hb₁ : registrations w₁.history ≤ UInt32.size := by
        rw [hc, History.registrations_append] at hb
        omega
      have hrest := ih (hnoted hf₁ hb₁) hput hf hb
      rwa [put_put] at hrest

/-- The first bytes of a stream have to wait and so arm it, while a note about it waits. -/
def overtakes (r : Relay κ) : Input κ → Bool
  | .frame i bytes =>
    match Request.decode bytes with
    | .ok (.send k _) => (r.socket? i k).any fun v => v.outbound.isEmpty &&
        ((r.step (.frame i bytes)).1.socket? i k).any (fun v' => !v'.outbound.isEmpty) &&
        (r.world.mailbox i).queue.any fun note => v.token = some note.token
    | _ => false
  | _ => false

theorem asked_of_rearmed (hpoll : x ≠ .poll) (hdrain : ∀ i, x ≠ .drain i) {e : Exchange}
    {d : Descriptor} (he : e ∈ r.exchanges x) (hd : e.rearmed? = some d) :
    ∃ i s k data, r.Asks x i s (.send k data) := by
  obtain ⟨bits, token, rfl⟩ := Exchange.rearmed?_eq_some hd
  have hl := licensed_of_mem he
  cases x with
  | frame i bytes =>
    obtain ⟨s, request, ha, hl⟩ := hl
    cases hl with
    | written => exact ⟨i, s, _, _, ha⟩
    | released hc => cases hc
    | acquired ht hr hv hc =>
      cases hc with
      | released hc => cases hc
  | expire | leave => cases hl
  | enter | elapse => exact hl.elim
  | drain i => exact (hdrain i rfl).elim
  | poll => exact (hpoll rfl).elim

theorem sent_of_rearmed (ho : r.AllOpen) {data : Bytes} (ha : r.Asks x i s (.send k data))
    {e : Exchange} {d : Descriptor} (he : e ∈ r.exchanges x) (hd : e.rearmed? = some d)
    (hwithin : SendsWithin (r.step x).1.world.history) :
    ∃ v v', s.sockets.get? k = some v ∧ v.descriptor = some d ∧ v.outbound = [] ∧
      (r.step x).1.socket? i k = some v' ∧ v'.outbound ≠ [] := by
  obtain ⟨⟨bytes, rfl, hdecode⟩, hs, hopen⟩ := ha
  have hstep := step_dispatched hs hopen hdecode
  obtain ⟨calls, hcalls, hrearmed⟩ := Session.send_rearms (w := r.world) (ho i s hs) k data
  have hhistory := congrArg (fun r : Relay κ => r.world.history) hstep
  rw [exchanges_eq (hhistory.trans hcalls)] at he
  obtain ⟨v, v', hv, hheld, hempty, hv', hleft⟩ := hrearmed e he d hd
  refine ⟨v, v', hv, hheld, hempty, ?_, hleft ?_⟩
  · rw [hstep, socket?_put hs, if_pos rfl, hv']
  · rw [hstep] at hwithin
    exact hwithin

/-- If it overtakes nothing, no note about that stream has been waiting. -/
theorem unwaited_of_sent {data : Bytes} {v v' : VirtualSocket}
    (ha : r.Asks x i s (.send k data)) (ho : r.overtakes x = false)
    (hv : s.sockets.get? k = some v) (hempty : v.outbound = [])
    (hv' : (r.step x).1.socket? i k = some v') (hleft : v'.outbound ≠ [])
    (ht : v.token = some token) : r.world.waiting i token = 0 := by
  obtain ⟨⟨bytes, rfl, hdecode⟩, hs, -⟩ := ha
  have hik : r.socket? i k = some v := (socket?_of_session hs k).trans hv
  simp only [overtakes, hdecode, hik, hv', Option.any_some, hempty, List.isEmpty_nil,
    Bool.true_and, Bool.and_eq_false_iff] at ho
  refine List.countP_eq_zero.2 fun note hnote hsame => ?_
  rcases ho with ho | ho
  · simp [hleft] at ho
  · have hwaits := List.any_eq_false.1 ho note hnote
    simp [ht, of_decide_eq_true hsame] at hwaits

/-- Steps that neither poll nor drain bring no notes, and arm rows only if no note about them
waits. -/
theorem Punctual.turn (h : r.Punctual) (hpoll : x ≠ .poll) (hdrain : ∀ i, x ≠ .drain i)
    (hf : OpensFresh (r.step x).1.world.history)
    (hwithin : SendsWithin (r.step x).1.world.history)
    (hb : registrations (r.step x).1.world.history ≤ UInt32.size) (ho : r.overtakes x = false) :
    (r.step x).1.Punctual := by
  obtain ⟨l, ht⟩ := step_turn False h.allOpen x False.elim
  have howned := h.owned.turn ht hf
  obtain ⟨hcounted, hsince⟩ := h.counted.turn ht
  obtain ⟨calls, hcalls⟩ := ht.history
  refine h.since (ht.allOpen h.allOpen) howned hcounted hsince (ht.queue_suffix hpoll) hb
    fun j m token hold he hsame harmed => ?_
  rcases howned.armed_or_rearmed hcalls he hsame harmed with hbefore | ⟨e, hmem, hd⟩
  · exact .inl hbefore
  rw [← exchanges_eq hcalls] at hmem
  obtain ⟨i, s, k, data, ha⟩ := asked_of_rearmed hpoll hdrain hmem hd
  obtain ⟨v, v', hv, hheld, hempty, hv', hleft⟩ := sent_of_rearmed h.allOpen ha hmem hd hwithin
  have hik : r.socket? i k = some v := (socket?_of_session ha.session k).trans hv
  obtain ⟨own, interest, -, htoken, -, hrow, -⟩ := h.owned.row hik hheld
  obtain ⟨interest', hrow'⟩ := hold
  cases hrow.symm.trans hrow'
  have hnone := unwaited_of_sent ha ho hv hempty hv' hleft htoken
  have hle : (r.step x).1.world.waiting j token ≤ r.world.waiting j token :=
    World.waiting_le_of_suffix (ht.queue_suffix hpoll j)
  exact .inr (by omega)

theorem Punctual.drain (h : r.Punctual) (hf : OpensFresh (r.step (.drain i)).1.world.history)
    (hb : registrations (r.step (.drain i)).1.world.history ≤ UInt32.size) :
    (r.step (.drain i)).1.Punctual := by
  cases hs : r.sessions[i]? with
  | none =>
    have hnone : (r.step (.drain i)).1 = r := by
      change (r.serve i _).1 = r
      unfold serve
      rw [hs]
    rwa [hnone]
  | some s =>
    have hdrained : (r.step (.drain i)).1 =
        r.put i (s.drained (r.world.mailbox s.mailbox).queue.length r.world).1
          (s.drained (r.world.mailbox s.mailbox).queue.length r.world).2 := by
      change (r.serve i fun s => do return (← s.drainMailbox).1).1 = _
      rw [serve_of_session hs]
      rfl
    rw [hdrained] at hf hb ⊢
    exact h.drained hs _ hf hb

theorem Punctual.step (h : r.Punctual) (hf : OpensFresh (r.step x).1.world.history)
    (hr : ReportsArmed (r.step x).1.world.history)
    (hwithin : SendsWithin (r.step x).1.world.history)
    (hb : registrations (r.step x).1.world.history ≤ UInt32.size) (ho : r.overtakes x = false) :
    (r.step x).1.Punctual := by
  by_cases hpoll : x = .poll
  · cases hpoll
    exact h.poll hf hr
  by_cases hdrain : ∃ i, x = .drain i
  · obtain ⟨i, rfl⟩ := hdrain
    exact h.drain hf hb
  · exact h.turn hpoll (fun i hx => hdrain ⟨i, hx⟩) hf hwithin hb ho

/-- In no step of a run does a request overtake a note. -/
def unhurried (r : Relay κ) : List (Input κ) → Bool
  | [] => true
  | x :: xs => !r.overtakes x && (r.step x).1.unhurried xs

theorem unhurried_append (r : Relay κ) (xs ys : List (Input κ)) :
    r.unhurried (xs ++ ys) = (r.unhurried xs && (r.run xs).unhurried ys) := by
  induction xs generalizing r with
  | nil => rfl
  | cons x xs ih => simp [unhurried, ih, Bool.and_assoc]

theorem Punctual.run (h : r.Punctual) {xs : List (Input κ)}
    (hf : OpensFresh (r.run xs).world.history) (hr : ReportsArmed (r.run xs).world.history)
    (hwithin : SendsWithin (r.run xs).world.history)
    (hb : registrations (r.run xs).world.history ≤ UInt32.size) (ho : r.unhurried xs) :
    (r.run xs).Punctual := by
  induction xs generalizing r with
  | nil => exact h
  | cons x xs ih =>
    simp only [unhurried, Bool.and_eq_true, Bool.not_eq_true'] at ho
    obtain ⟨l, ht⟩ := step_turn False h.allOpen x False.elim
    obtain ⟨calls, hc⟩ := history_run (ht.allOpen h.allOpen) xs
    refine ih (h.step ?_ ?_ ?_ ?_ ho.1) hf hr hwithin hb ho.2
    · rw [run_cons, hc] at hf
      exact hf.of_append
    · rw [run_cons, hc] at hr
      exact hr.of_append
    · rw [run_cons, hc] at hwithin
      exact hwithin.of_append
    · rw [run_cons, hc, History.registrations_append] at hb
      omega

/-- One note waits at most of each registration, and while one waits no other one is posted. -/
structure Once (r : Relay κ) (x : Input κ) : Prop where
  single : ∀ d registration, r.world.reactor.table.get? d = some registration →
    r.world.waiting registration.mailbox registration.token ≤ 1
  silent : ∀ d registration, r.world.reactor.table.get? d = some registration →
    r.world.waiting registration.mailbox registration.token ≠ 0 →
    ∀ note ∈ r.delivered registration.mailbox x, note.token ≠ registration.token

omit [OperatingSystem κ] in
theorem Punctual.waiting_le_one (h : r.Punctual) {d : Descriptor} {registration : Registration}
    (hrow : r.world.reactor.table.get? d = some registration) :
    r.world.waiting registration.mailbox registration.token ≤ 1 := by
  obtain ⟨hd, -⟩ := h.owned.matched.listed d registration hrow
  refine Nat.le_trans World.waiting_le_outstanding
    (h.once registration.mailbox registration.socket registration.token ⟨registration.interest, ?_⟩)
  rw [hd]
  exact hrow

/-- A poll leaves the rows, so if one note waits at most afterwards it posts none about a row of
which one waits already. -/
theorem Punctual.silent (h : r.Punctual) (h' : (r.step .poll).1.Punctual) {d : Descriptor}
    {registration : Registration} (hrow : r.world.reactor.table.get? d = some registration)
    (hwaits : r.world.waiting registration.mailbox registration.token ≠ 0) :
    ∀ note ∈ r.delivered registration.mailbox .poll, note.token ≠ registration.token := by
  intro note hnote ht
  obtain ⟨notes, hq, -⟩ := queue_poll r registration.mailbox
  simp only [delivered, hq, List.drop_left] at hnote
  have hposted : 0 < notes.countP fun note => note.token = registration.token :=
    List.countP_pos_iff.2 ⟨note, hnote, decide_eq_true ht⟩
  have hstays := (h.owned.polled registration.mailbox).reactor
  have hone := h'.waiting_le_one (hstays ▸ hrow)
  unfold World.waiting at hone hwaits
  rw [hq, List.countP_append] at hone
  omega

/-- In a run in which no request overtakes a note, a registration that is reported stays quiet until
the note has been taken from the mailbox. -/
theorem readiness_once {system : κ} {maxEvents : Nat} {xs : List (Input κ)} {x : Input κ}
    (hf : OpensFresh ((start system maxEvents).run (xs ++ [x])).world.history)
    (hr : ReportsArmed ((start system maxEvents).run (xs ++ [x])).world.history)
    (hwithin : SendsWithin ((start system maxEvents).run (xs ++ [x])).world.history)
    (hb : registrations ((start system maxEvents).run (xs ++ [x])).world.history ≤ UInt32.size)
    (ho : (start system maxEvents).unhurried (xs ++ [x])) :
    Once ((start system maxEvents).run xs) x := by
  have hrun : ((start system maxEvents).run xs).Punctual := by
    obtain ⟨calls, hc⟩ := history_run (allOpen_run (allOpen_start system maxEvents) xs) [x]
    rw [unhurried_append, Bool.and_eq_true] at ho
    rw [run_append, hc] at hf hr hwithin hb
    rw [History.registrations_append] at hb
    exact (punctual_start system maxEvents).run hf.of_append hr.of_append hwithin.of_append
      (by omega) ho.1
  have hnext := (punctual_start system maxEvents).run hf hr hwithin hb ho
  rw [run_append] at hnext
  refine ⟨fun d registration => hrun.waiting_le_one,
    fun d registration hrow hwaits note hnote => ?_⟩
  obtain ⟨rfl, -⟩ := reported_of_delivered hnote
  exact hrun.silent hnext hrow hwaits note hnote

end Relay

namespace Loopback
open Relay (Input)

/-- Bytes are sent on a stream that is about to be connected, and then the stream is reported. -/
def sendThenReport : List (Input Network) :=
  arrival ++ [asks (.connect 1 [127, 0, 0, 1] 23911), asks (.send 1 [104, 105]), .poll]

/-- The bytes are sent while the report waits, and the stream is reported again. -/
def reportThenSend : List (Input Network) :=
  arrival ++ [asks (.connect 1 [127, 0, 0, 1] 23911), .poll, asks (.send 1 [104, 105]), .poll]

theorem readiness_once_sendThenReport :
    (Relay.start listening 8).unhurried (sendThenReport ++ [.poll]) ∧
      ((Relay.start listening 8).run sendThenReport).world.waiting 0 (Token.pack 3 1) = 1 ∧
      Relay.Once ((Relay.start listening 8).run sendThenReport) .poll := by
  have ho : (Relay.start listening 8).unhurried (sendThenReport ++ [.poll]) := by decide +kernel
  exact ⟨ho, by decide +kernel, Relay.readiness_once (by decide +kernel) (by decide +kernel)
    (by decide +kernel) (by decide +kernel) ho⟩

/-- Whatever is assumed of the system, a registration can be reported again before its note is
taken. -/
theorem readiness_repeated : ¬ ∀ xs : List (Input Network),
    OpensFresh ((Relay.start listening 8).run xs).world.history →
    ReportsArmed ((Relay.start listening 8).run xs).world.history →
    SendsWithin ((Relay.start listening 8).run xs).world.history →
    Relay.Once ((Relay.start listening 8).run xs) .poll := by
  intro h
  have htwice : (((Relay.start listening 8).run reportThenSend).world.reactor.table.get? 3).any
      fun registration => ((Relay.start listening 8).run reportThenSend).world.waiting
        registration.mailbox registration.token = 2 := by
    decide +kernel
  have honce := h reportThenSend (by decide +kernel) (by decide +kernel) (by decide +kernel)
  obtain ⟨registration, hrow, hwaiting⟩ := (Option.any_eq_true _ _).1 htwice
  have hone := honce.single 3 registration hrow
  rw [of_decide_eq_true hwaiting] at hone
  exact absurd hone (by decide)

end Loopback

end SocketRelay
