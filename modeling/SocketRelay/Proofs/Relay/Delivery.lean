import SocketRelay.Proofs.Relay.Ownership

/-!
# What a poll brings

A poll turns the reports of one wait into notes and puts each of them into the mailbox of its
registration, as far as there is room. What a mailbox gets depends on the reports and on its own
room only: a mailbox that is full costs its own session a note, which is reported again later, and
no other session anything.
-/
namespace SocketRelay

namespace Mailbox

/-- The mailbox after some notes have come in; those that did not fit are left out. -/
def accept (box : Mailbox) (notes : List Readiness) : Mailbox :=
  notes.foldl (fun box note => (box.post? note).getD box) box

@[simp] theorem accept_nil (box : Mailbox) : box.accept [] = box := rfl
@[simp] theorem accept_cons (box : Mailbox) (note : Readiness) (notes : List Readiness) :
    box.accept (note :: notes) = ((box.post? note).getD box).accept notes := rfl

/-- Notes are put at the end, in order, as many as there is room for. -/
theorem queue_accept (box : Mailbox) (notes : List Readiness) :
    (box.accept notes).queue = box.queue ++ notes.take (box.capacity - box.queue.length) := by
  induction notes generalizing box with
  | nil => simp
  | cons note notes ih =>
    rw [accept_cons, ih]
    unfold post? isFull
    by_cases hfull : box.capacity ≤ box.queue.length
    · have hroom : box.capacity - box.queue.length = 0 := Nat.sub_eq_zero_of_le hfull
      simp [hfull, hroom]
    · obtain ⟨room, hroom⟩ : ∃ room, box.capacity - box.queue.length = room + 1 :=
        ⟨box.capacity - box.queue.length - 1, by omega⟩
      have hrest : box.capacity - (box.queue.length + 1) = room := by omega
      simp [hfull, hroom, hrest]

end Mailbox

namespace Reactor
open SocketRelay.Action (Ends)
variable {κ : Type}

def notesFor (m : MailboxId) (notes : List (MailboxId × Readiness)) : List Readiness :=
  (notes.filter fun p => p.1 = m).map Prod.snd

theorem notesFor_cons (j m : MailboxId) (note : Readiness) (rest : List (MailboxId × Readiness)) :
    notesFor j ((m, note) :: rest) =
      if m = j then note :: notesFor j rest else notesFor j rest := by
  unfold notesFor
  by_cases hm : m = j <;> simp [hm]

theorem mem_notesFor {m : MailboxId} {notes : List (MailboxId × Readiness)} {note : Readiness} :
    note ∈ notesFor m notes ↔ (m, note) ∈ notes := by
  simp only [notesFor, List.mem_map, List.mem_filter, decide_eq_true_eq, Prod.exists]
  constructor
  · intro h
    obtain ⟨_, _, ⟨hmem, rfl⟩, rfl⟩ := h
    exact hmem
  · exact fun h => ⟨m, note, ⟨h, rfl⟩, rfl⟩

theorem note?_eq_some {table : Table Descriptor Registration} {report : UInt32 × Token}
    {m : MailboxId} {note : Readiness} (h : note? table report = some (m, note)) :
    note.token = report.2 ∧ note.events = Interest.ofEpoll report.1 ∧
      ∃ interest, table.get? note.token.descriptor =
        some ⟨note.token, note.socket, interest, m⟩ := by
  unfold note? at h
  split at h
  · cases h
  · rename_i registration hr
    split at h
    · rename_i ht
      cases h
      refine ⟨rfl, rfl, registration.interest, ?_⟩
      rw [hr, ← ht]
    · cases h

theorem post_mailbox (m : MailboxId) (note : Readiness) (w : World κ) :
    (post m note).Ends w fun _ w' => ∀ j, w'.mailbox j =
      if j = m then ((w.mailbox m).post? note).getD (w.mailbox m) else w.mailbox j := by
  unfold Ends post
  cases hpost : (w.mailbox m).post? note with
  | none =>
    intro j
    change w.mailbox j = _
    split
    · rename_i hj
      rw [hj]
      rfl
    · rfl
  | some box =>
    intro j
    change ((w.mailboxes.insert m box).get? j).getD default = _
    rw [Table.get?_insert]
    split <;> rfl

variable [OperatingSystem κ]

theorem rearm_mailbox (token : Token) (w : World κ) :
    (rearm token).Ends w fun _ w' => ∀ m, w'.mailbox m = w.mailbox m := by
  refine rearm_ends.mono fun _ w' h m => ?_
  rcases h with ⟨-, rfl⟩ | ⟨registration, answer, -, -, hmoved⟩
  · rfl
  · exact World.mailbox_of_mailboxes hmoved.mailboxes m

theorem deliver_mailbox (notes : List (MailboxId × Readiness)) (w : World κ) :
    (deliver notes).Ends w fun _ w' =>
      ∀ m, w'.mailbox m = (w.mailbox m).accept (notesFor m notes) := by
  induction notes generalizing w with
  | nil => exact Ends.pure fun m => rfl
  | cons head rest ih =>
    obtain ⟨m, note⟩ := head
    unfold deliver
    refine Ends.bind (post_mailbox m note w) fun fitted w₁ h₁ => ?_
    have hrest : ∀ j, (w₁.mailbox j).accept (notesFor j rest) =
        (w.mailbox j).accept (notesFor j ((m, note) :: rest)) := by
      intro j
      rw [h₁ j, notesFor_cons]
      by_cases hj : j = m
      · simp [hj]
      · simp [hj, Ne.symm hj]
    cases fitted with
    | true =>
      refine Ends.bind (ih w₁) fun _ w' h => Ends.pure fun j => ?_
      rw [h j, hrest j]
    | false =>
      refine Ends.bind (rearm_mailbox note.token w₁) fun _ w₂ h₂ => (ih w₂).mono fun _ w' h j => ?_
      rw [h j, h₂ j, hrest j]

/-- The reports that the system has for the next wait. -/
def reports (w : World κ) : List (UInt32 × Token) :=
  (Except.toOption (OperatingSystem.respond w.system (.epollWait w.reactor.maxEvents)).1).getD []

theorem pollOnce_mailbox (w : World κ) : pollOnce.Ends w fun _ w' => ∀ m,
    w'.mailbox m = (w.mailbox m).accept
      (notesFor m ((reports w).filterMap (note? w.reactor.table))) := by
  unfold pollOnce
  refine Ends.read (Ends.bind (p := fun answer w₁ =>
    answer = (OperatingSystem.respond w.system (.epollWait w.reactor.maxEvents)).1 ∧
      w₁.reactor = w.reactor ∧ w₁.mailboxes = w.mailboxes) ⟨rfl, rfl, rfl⟩ ?_)
  intro answer w₁ h₁
  obtain ⟨ha, hr, hm⟩ := h₁
  have hbox : ∀ m, w₁.mailbox m = w.mailbox m := World.mailbox_of_mailboxes hm
  unfold reports
  rw [← ha]
  cases answer with
  | error e =>
    dsimp only
    split
    · exact Ends.pure hbox
    · exact Ends.pure hbox
  | ok reports =>
    refine Ends.read ?_
    rw [hr]
    refine Ends.bind (deliver_mailbox _ w₁) fun _ w' h => Ends.pure fun m => ?_
    rw [h m, hbox m]
    rfl

end Reactor

namespace Relay
variable {κ : Type} {r : Relay κ} {j : Nat} {note : Readiness}

/-- The note is about the registration of a socket of this session. -/
def Addressed (r : Relay κ) (j : Nat) (note : Readiness) : Prop :=
  ∃ interest v, r.world.reactor.table.get? note.token.descriptor =
      some ⟨note.token, note.socket, interest, j⟩ ∧
    r.socket? j note.socket = some v ∧ v.descriptor = some note.token.descriptor ∧
    v.token = some note.token

theorem Owned.addressed (h : r.Owned) {report : UInt32 × Token}
    (hn : Reactor.note? r.world.reactor.table report = some (j, note)) : r.Addressed j note := by
  obtain ⟨-, -, interest, hr⟩ := Reactor.note?_eq_some hn
  obtain ⟨v, hv, hd, ht⟩ := h.matched.owner _ _ hr
  exact ⟨interest, v, hr, hv, hd, ht⟩

variable [OperatingSystem κ]

/-- A poll puts notes at the end of a mailbox, each for a report. -/
theorem queue_poll (r : Relay κ) (i : Nat) : ∃ notes,
    ((r.step .poll).1.world.mailbox i).queue = (r.world.mailbox i).queue ++ notes ∧
      ∀ note ∈ notes, ∃ report ∈ Reactor.reports r.world,
        Reactor.note? r.world.reactor.table report = some (i, note) := by
  have hbox := Reactor.pollOnce_mailbox r.world i
  refine ⟨_, (congrArg Mailbox.queue hbox).trans (Mailbox.queue_accept _ _), fun note hnote => ?_⟩
  exact List.mem_filterMap.1 (Reactor.mem_notesFor.1 (List.mem_of_mem_take hnote))

/-- What a poll does to one session: it may put notes about the session's own sockets at the end of
its mailbox, and these do not depend on what other mailboxes hold. -/
structure Polled (r : Relay κ) (j : Nat) : Prop where
  sessions : (r.step .poll).1.sessions = r.sessions
  reactor : (r.step .poll).1.world.reactor = r.world.reactor
  appended : ∃ notes, ((r.step .poll).1.world.mailbox j).queue =
    (r.world.mailbox j).queue ++ notes ∧ ∀ note ∈ notes, r.Addressed j note
  regardless : ∀ mailboxes, mailboxes.get? j = r.world.mailboxes.get? j →
    (({ r with world := { r.world with mailboxes } } : Relay κ).step .poll).1.world.mailbox j =
      (r.step .poll).1.world.mailbox j

theorem Owned.polled (h : r.Owned) (j : Nat) : Polled r j where
  sessions := rfl
  reactor := by
    change (Reactor.pollOnce r.world).2.reactor = _
    rcases Reactor.pollOnce_ends (w := r.world) with ⟨e, hm⟩ | ⟨reports, w₁, hm, hd⟩
    · exact hm.reactor
    · exact hd.reactor.trans hm.reactor
  appended := by
    obtain ⟨notes, hq, hnotes⟩ := queue_poll r j
    refine ⟨notes, hq, fun note hnote => ?_⟩
    obtain ⟨report, -, hn⟩ := hnotes note hnote
    exact h.addressed hn
  regardless := by
    intro mailboxes hmailboxes
    have hbox : World.mailbox { r.world with mailboxes } j = r.world.mailbox j :=
      congrArg (fun box => box.getD default) hmailboxes
    have hreports : Reactor.reports { r.world with mailboxes } = Reactor.reports r.world := rfl
    have hother := Reactor.pollOnce_mailbox { r.world with mailboxes } j
    rw [hbox, hreports] at hother
    exact hother.trans (Reactor.pollOnce_mailbox r.world j).symm

end Relay

end SocketRelay
