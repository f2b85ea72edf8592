import Mathlib.Algebra.BigOperators.Group.Finset.Piecewise
import Mathlib.Data.List.Forall2
import SocketRelay.Proofs.Relay.Delivery

/-!
# What becomes of the reports of a poll

A report is live for a mailbox if its token is that of the present registration of its descriptor
and that registration points to the mailbox. Of the reports that are live for a mailbox the first
ones are posted, as many as there is room for; each of the others has its registration armed again,
once. A report that is live for no mailbox comes to nothing.

`liveFor` says which notes a mailbox should get from the table and the reports alone. That the poll
does this for every mailbox at once, in one pass over the reports, is `poll_distributes`.
-/
namespace SocketRelay

namespace Mailbox

def room (box : Mailbox) : Nat := box.capacity - box.queue.length

theorem post?_of_room {box : Mailbox} (note : Readiness) (h : box.room = 0) :
    box.post? note = none := by
  have hfull : box.capacity ≤ box.queue.length := Nat.sub_eq_zero_iff_le.1 h
  simp [post?, isFull, hfull]

theorem post?_of_room_succ {box : Mailbox} (note : Readiness) {room : Nat}
    (h : box.room = room + 1) : ∃ box', box.post? note = some box' ∧ box'.room = room := by
  unfold Mailbox.room at h
  have hfree : ¬ box.capacity ≤ box.queue.length := by omega
  refine ⟨{ box with queue := box.queue ++ [note], wakes := box.wakes + 1 }, ?_, ?_⟩
  · simp [post?, isFull, hfree]
  · unfold Mailbox.room
    simp only [List.length_append, List.length_singleton]
    omega

/-- Every note that comes in wakes the session once, and no other does. -/
theorem accept_eq (box : Mailbox) (notes : List Readiness) : box.accept notes =
    { box with
      queue := box.queue ++ notes.take box.room
      wakes := box.wakes + (notes.take box.room).length } := by
  have hqueue := box.queue_accept notes
  have hrest : (box.accept notes).capacity = box.capacity ∧
      (box.accept notes).wakes + box.queue.length =
        box.wakes + (box.accept notes).queue.length := by
    clear hqueue
    induction notes generalizing box with
    | nil => simp
    | cons note notes ih =>
      rw [accept_cons]
      cases hpost : box.post? note with
      | none => exact ih box
      | some box' =>
        obtain ⟨hcapacity, hwakes⟩ := ih box'
        unfold post? at hpost
        split at hpost
        · cases hpost
        · cases hpost
          simp only [List.length_append, List.length_singleton] at hwakes
          exact ⟨hcapacity, by rw [Option.getD_some]; omega⟩
  obtain ⟨hcapacity, hwakes⟩ := hrest
  rw [hqueue, List.length_append] at hwakes
  generalize box.accept notes = after at hqueue hcapacity hwakes
  obtain ⟨capacity, queue, wakes⟩ := after
  dsimp only at hqueue hcapacity hwakes
  rw [hqueue, hcapacity]
  congr 1
  unfold room
  omega

end Mailbox

namespace Reactor
open SocketRelay.Action (Ends)
variable {κ : Type} {t : Table Descriptor Registration} {notes : List (MailboxId × Readiness)}

/-- The reports that are live for a mailbox, in order, as the notes that it should get. -/
def liveFor (t : Table Descriptor Registration) (m : MailboxId) (reports : List (UInt32 × Token)) :
    List Readiness :=
  reports.filterMap fun report =>
    (t.get? report.2.descriptor).bind fun registration =>
      if registration.token = report.2 ∧ registration.mailbox = m then
        some ⟨registration.socket, report.2, Interest.ofEpoll report.1⟩
      else none

def mailboxes (t : Table Descriptor Registration) : Finset MailboxId :=
  (t.values.map Registration.mailbox).toFinset

/-- The call arms the registration of a note again, as it is. -/
def Arms (t : Table Descriptor Registration) (note : Readiness) (x : Exchange) : Prop :=
  ∃ registration answer, t.get? note.token.descriptor = some registration ∧
    registration.token = note.token ∧
    x = ⟨.epollModify note.token.descriptor registration.interest.toEpoll note.token, answer⟩

theorem notesFor_filterMap (t : Table Descriptor Registration) (m : MailboxId)
    (reports : List (UInt32 × Token)) :
    notesFor m (reports.filterMap (note? t)) = liveFor t m reports := by
  unfold notesFor liveFor
  rw [List.filter_filterMap, List.map_filterMap]
  refine List.filterMap_congr fun report _ => ?_
  unfold note?
  cases t.get? report.2.descriptor with
  | none => rfl
  | some registration =>
    by_cases ht : registration.token = report.2
    · by_cases hm : registration.mailbox = m <;> simp [ht, hm]
    · simp [ht]

/-- Some notes are one by one for their mailboxes. -/
theorem length_eq_sum_notesFor {known : Finset MailboxId} (h : ∀ p ∈ notes, p.1 ∈ known) :
    notes.length = ∑ m ∈ known, (notesFor m notes).length := by
  induction notes with
  | nil => exact (Finset.sum_eq_zero fun _ _ => rfl).symm
  | cons head rest ih =>
    obtain ⟨m, note⟩ := head
    obtain ⟨hm, hrest⟩ := List.forall_mem_cons.1 h
    have hone : ∀ j, (notesFor j ((m, note) :: rest)).length =
        (notesFor j rest).length + if m = j then 1 else 0 := by
      intro j
      rw [notesFor_cons]
      split <;> simp
    rw [Finset.sum_congr rfl fun j _ => hone j, Finset.sum_add_distrib, ← ih hrest,
      Finset.sum_ite_eq, if_pos hm, List.length_cons]

variable {p : MailboxId × Readiness} {reports : List (UInt32 × Token)}

theorem registration_of_note? (hp : p ∈ reports.filterMap (note? t)) :
    ∃ registration, t.get? p.2.token.descriptor = some registration ∧
      registration.token = p.2.token := by
  obtain ⟨report, -, hn⟩ := List.mem_filterMap.1 hp
  obtain ⟨-, -, interest, hr⟩ := note?_eq_some hn
  exact ⟨_, hr, rfl⟩

theorem mailbox_of_note? (hp : p ∈ reports.filterMap (note? t)) : p.1 ∈ mailboxes t := by
  obtain ⟨report, -, hn⟩ := List.mem_filterMap.1 hp
  obtain ⟨-, -, interest, hr⟩ := note?_eq_some hn
  have hvalue := List.mem_map_of_mem (f := Prod.snd) (Table.get?_eq_some_iff.1 hr)
  exact List.mem_toFinset.2 (List.mem_map.2 ⟨_, hvalue, rfl⟩)

theorem tokens_sublist (t : Table Descriptor Registration) (reports : List (UInt32 × Token)) :
    ((reports.filterMap (note? t)).map (·.2.token)).Sublist (reports.map Prod.snd) := by
  induction reports with
  | nil => exact .slnil
  | cons report rest ih =>
    cases hn : note? t report with
    | none =>
      rw [List.filterMap_cons_none hn]
      exact ih.cons _
    | some p =>
      rw [List.filterMap_cons_some hn, List.map_cons, List.map_cons, (note?_eq_some hn).1]
      exact ih.cons_cons _

/-- Of some notes those that found no room in a mailbox: the later ones for it. -/
structure Split (t : Table Descriptor Registration) (w : World κ)
    (notes late : List (MailboxId × Readiness)) (calls : List Exchange) (n : Nat) (w' : World κ) :
    Prop where
  ordered : late.Sublist notes
  count : n + late.length = notes.length
  beyond : ∀ m, notesFor m late = (notesFor m notes).drop (w.mailbox m).room
  armed : List.Forall₂ (fun p x => Arms t p.2 x) late calls
  history : w'.history = calls.reverse ++ w.history
  reactor : w'.reactor = w.reactor

variable {w w₁ w' : World κ} {m : MailboxId} {note : Readiness} {calls : List Exchange} {n : Nat}
variable {late : List (MailboxId × Readiness)}

theorem Split.posted {box : Mailbox} {room : Nat} (hroom : (w.mailbox m).room = room + 1)
    (hbox : box.room = room)
    (h : Split t { w with mailboxes := w.mailboxes.insert m box } notes late calls n w') :
    Split t w ((m, note) :: notes) late calls (n + 1) w' := by
  refine ⟨h.ordered.cons _, ?_, fun j => ?_, h.armed, h.history, h.reactor⟩
  · rw [List.length_cons, ← h.count]
    omega
  · rw [h.beyond j, notesFor_cons]
    unfold World.mailbox at hroom ⊢
    rw [Table.get?_insert]
    split
    · rename_i hj
      rw [if_pos hj.symm, hj, hroom, Option.getD_some, hbox, List.drop_succ_cons]
    · rename_i hj
      rw [if_neg (Ne.symm hj)]

theorem Split.armed_again {x : Exchange} (hroom : (w.mailbox m).room = 0) (hx : Arms t note x)
    (hm : w.Moved [x] w.reactor w₁) (h : Split t w₁ notes late calls n w') :
    Split t w ((m, note) :: notes) ((m, note) :: late) (x :: calls) n w' := by
  have hbox := World.mailbox_of_mailboxes hm.mailboxes
  refine ⟨h.ordered.cons_cons _, ?_, fun j => ?_, .cons hx h.armed, ?_, h.reactor.trans hm.reactor⟩
  · rw [List.length_cons, List.length_cons, ← h.count]
    omega
  · rw [notesFor_cons, notesFor_cons, h.beyond j, hbox j]
    split
    · rename_i hj
      rw [← hj, hroom]
      rfl
    · rfl
  · rw [h.history, hm.history, List.reverse_cons, List.append_assoc]

/-- What a poll with these reports does, if it says that it posted `n` notes. -/
structure Distributed (w : World κ) (reports : List (UInt32 × Token)) (n : Nat) (w' : World κ) :
    Prop where
  mailbox : ∀ m, w'.mailbox m =
    { w.mailbox m with
      queue := (w.mailbox m).queue ++ (liveFor w.reactor.table m reports).take (w.mailbox m).room
      wakes := (w.mailbox m).wakes +
        ((liveFor w.reactor.table m reports).take (w.mailbox m).room).length }
  total : n = ∑ m ∈ mailboxes w.reactor.table,
    ((liveFor w.reactor.table m reports).take (w.mailbox m).room).length
  rearmed : ∃ (late : List (MailboxId × Readiness)) (calls : List Exchange),
    (late.map (·.2.token)).Sublist (reports.map Prod.snd) ∧
      (∀ m, notesFor m late = (liveFor w.reactor.table m reports).drop (w.mailbox m).room) ∧
      List.Forall₂ (fun p x => Arms w.reactor.table p.2 x) late calls ∧
      w'.history = calls.reverse ++ ⟨.epollWait w.reactor.maxEvents, .ok reports⟩ :: w.history
  reactor : w'.reactor = w.reactor

theorem Split.distributed {reports : List (UInt32 × Token)}
    (hm : w.Moved [⟨.epollWait w.reactor.maxEvents, .ok reports⟩] w.reactor w₁)
    (h : Split w.reactor.table w₁ (reports.filterMap (note? w.reactor.table)) late calls n w')
    (hbox : ∀ m, w'.mailbox m = (w₁.mailbox m).accept
      (notesFor m (reports.filterMap (note? w.reactor.table)))) :
    Distributed w reports n w' := by
  have hbefore := World.mailbox_of_mailboxes hm.mailboxes
  have hbeyond : ∀ m, notesFor m late =
      (liveFor w.reactor.table m reports).drop (w.mailbox m).room := by
    intro m
    rw [h.beyond m, notesFor_filterMap, hbefore m]
  refine ⟨fun m => ?_, ?_, ⟨late, calls, ?_, hbeyond, h.armed, ?_⟩, h.reactor.trans hm.reactor⟩
  · rw [hbox m, hbefore m, notesFor_filterMap, Mailbox.accept_eq]
  · have hknown : ∀ p ∈ reports.filterMap (note? w.reactor.table),
        p.1 ∈ mailboxes w.reactor.table := fun p hp => mailbox_of_note? hp
    have hall := length_eq_sum_notesFor hknown
    have hlate := length_eq_sum_notesFor fun p hp => hknown p (h.ordered.subset hp)
    have hcount := h.count
    rw [hall, hlate] at hcount
    refine Nat.add_right_cancel (hcount.trans ?_)
    rw [← Finset.sum_add_distrib]
    refine Finset.sum_congr rfl fun m _ => ?_
    rw [hbeyond m, notesFor_filterMap, ← List.length_append, List.take_append_drop]
  · exact (h.ordered.map (·.2.token)).trans (tokens_sublist _ reports)
  · rw [h.history, hm.history]
    rfl

variable [OperatingSystem κ]

/-- Notes of present registrations are posted or armed again, one after the other. -/
theorem deliver_splits (notes : List (MailboxId × Readiness)) (w : World κ)
    (hn : ∀ p ∈ notes, ∃ registration,
      w.reactor.table.get? p.2.token.descriptor = some registration ∧
        registration.token = p.2.token) :
    (deliver notes).Ends w fun n w' =>
      ∃ late calls, Split w.reactor.table w notes late calls n w' := by
  -- Neither posting nor arming touches the table, so every note keeps its registration to the end.
  induction notes generalizing w with
  | nil => exact Ends.pure ⟨[], [], .slnil, rfl, fun m => List.drop_nil.symm, .nil, rfl, rfl⟩
  | cons head rest ih =>
    obtain ⟨m, note⟩ := head
    obtain ⟨⟨registration, hr, ht⟩, hrest⟩ := List.forall_mem_cons.1 hn
    unfold deliver
    cases hroom : (w.mailbox m).room with
    | zero =>
      have hpost : post m note w = (false, w) := by
        unfold post
        rw [Mailbox.post?_of_room note hroom]
      refine Ends.bind (p := fun fitted w' => (fitted, w') = post m note w) rfl ?_
      intro fitted w₁ h₁
      cases h₁.trans hpost
      refine Ends.bind rearm_ends ?_
      intro _ w₂ harmed
      rcases harmed with ⟨hnone, -⟩ | ⟨registration', answer, hr', ht', h₂⟩
      · exact (hnone registration hr ht).elim
      · rw [← h₂.reactor] at hrest
        refine (ih w₂ hrest).mono fun n w' h => ?_
        obtain ⟨late, calls, h⟩ := h
        rw [h₂.reactor] at h
        exact ⟨_, _, h.armed_again hroom ⟨registration', answer, hr', ht', rfl⟩ h₂⟩
    | succ room =>
      obtain ⟨box, hfits, hbox⟩ := Mailbox.post?_of_room_succ note hroom
      have hpost : post m note w = (true, { w with mailboxes := w.mailboxes.insert m box }) := by
        unfold post
        rw [hfits]
      refine Ends.bind (p := fun fitted w' => (fitted, w') = post m note w) rfl ?_
      intro fitted w₁ h₁
      cases h₁.trans hpost
      refine Ends.bind (ih _ hrest) fun n w' h => Ends.pure ?_
      obtain ⟨late, calls, h⟩ := h
      exact ⟨late, calls, h.posted hroom hbox⟩

/-- A poll fails as a whole or distributes all reports. -/
theorem poll_distributes (w : World κ) : pollOnce.Ends w fun result w' =>
    match (OperatingSystem.respond w.system (.epollWait w.reactor.maxEvents)).1 with
    | .error e =>
      result = (if e = Errno.interrupted then .ok 0 else .error (.io "epoll_wait" e)) ∧
        w.Moved [⟨.epollWait w.reactor.maxEvents, .error e⟩] w.reactor w'
    | .ok reports => ∃ n, result = .ok n ∧ Distributed w reports n w' := by
  unfold pollOnce
  refine Ends.read (Ends.bind (p := fun answer w₁ =>
    answer = (OperatingSystem.respond w.system (.epollWait w.reactor.maxEvents)).1 ∧
      w.Moved [⟨.epollWait w.reactor.maxEvents, answer⟩] w.reactor w₁) ⟨rfl, rfl, rfl, rfl, rfl⟩ ?_)
  intro answer w₁ h₁
  obtain ⟨ha, hm⟩ := h₁
  rw [← ha]
  cases answer with
  | error e =>
    dsimp only
    split
    · exact Ends.pure ⟨rfl, hm⟩
    · exact Ends.pure ⟨rfl, hm⟩
  | ok reports =>
    refine Ends.read ?_
    rw [hm.reactor]
    have hcurrent : ∀ p ∈ reports.filterMap (note? w.reactor.table), ∃ registration,
        w₁.reactor.table.get? p.2.token.descriptor = some registration ∧
          registration.token = p.2.token := by
      intro p hp
      rw [hm.reactor]
      exact registration_of_note? hp
    have hdelivered := (deliver_splits _ w₁ hcurrent).and (deliver_mailbox _ w₁)
    refine Ends.bind hdelivered fun n w' h => Ends.pure ?_
    obtain ⟨⟨late, calls, hsplit⟩, hbox⟩ := h
    rw [hm.reactor] at hsplit
    exact ⟨n, rfl, hsplit.distributed hm hbox⟩

end Reactor

end SocketRelay
