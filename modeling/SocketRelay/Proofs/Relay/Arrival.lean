import SocketRelay.Proofs.Relay.Delivery
import SocketRelay.Proofs.Relay.Enrolment

/-!
# What has arrived in a mailbox

Only polls put notes into mailboxes, and notes are taken from the front. So what waits in a mailbox
is the latest of all that polls have put there, in order: every note in it can be traced to one
poll, and to a report of that poll for a registration that was in the table then.
-/
namespace SocketRelay

namespace Session
variable {κ : Type} {settled : Prop} {s s' : Session} {w w' : World κ} {l : Log}

theorem Act.queue_suffix (h : Act settled s w l s' w') (j : MailboxId) :
    (w'.mailbox j).queue <:+ (w.mailbox j).queue := by
  have hkept : ∀ {w w' : World κ}, w'.mailboxes = w.mailboxes →
      (w'.mailbox j).queue <:+ (w.mailbox j).queue := fun hw =>
    congrArg Mailbox.queue (World.mailbox_of_mailboxes hw j) ▸ List.suffix_rfl
  have hpop : ∀ note queue, (w.mailbox s.mailbox).queue = note :: queue →
      ((w.withQueue s.mailbox queue).mailbox j).queue <:+ (w.mailbox j).queue := by
    intro note queue hq
    rw [World.mailbox_withQueue]
    split
    · rename_i hj
      rw [hj, hq]
      exact List.suffix_cons note queue
    · exact List.suffix_rfl
  cases h with
  | acted k hv hc => exact hkept hc.mailboxes
  | unarmed k d hv hd hc hf hc' => exact hkept hc'.mailboxes
  | dropped note queue hq => exact hpop note queue hq
  | handled note queue hq hv hc => exact (hkept hc.mailboxes).trans (hpop note queue hq)
  | forgot => exact List.suffix_rfl
  | closed =>
    rw [World.mailbox_withQueue]
    split
    · exact List.nil_suffix
    · exact List.suffix_rfl

theorem Course.queue_suffix (h : Course settled s w l s' w') (j : MailboxId) :
    (w'.mailbox j).queue <:+ (w.mailbox j).queue := by
  induction h with
  | rest => exact List.suffix_rfl
  | act _ ha ih => exact (ha.queue_suffix j).trans ih

end Session

namespace Relay
variable {κ : Type} {r r' : Relay κ} {i : Nat} {x : Input κ} {note : Readiness}

theorem mailbox_enter (r : Relay κ) (settings : Settings) (i : Nat) :
    ((r.enter settings).world.mailbox i).queue <:+ (r.world.mailbox i).queue := by
  unfold enter World.mailbox
  simp only [Table.get?_insert]
  split
  · exact List.nil_suffix
  · exact List.suffix_rfl

variable [OperatingSystem κ]

/-- What a step puts into the mailbox of a session. -/
def delivered (r : Relay κ) (i : Nat) : Input κ → List Readiness
  | .poll => ((r.step .poll).1.world.mailbox i).queue.drop (r.world.mailbox i).queue.length
  | _ => []

/-- What a run has put into the mailbox of a session, each note with the relay as it was at the poll
that brought it. -/
def arrivals (r : Relay κ) (i : Nat) : List (Input κ) → List (Relay κ × Readiness)
  | [] => []
  | x :: xs => (r.delivered i x).map (fun note => (r, note)) ++ (r.step x).1.arrivals i xs

/-- The system reported this at the poll, for the registration that the token had then. -/
def Reported (r : Relay κ) (i : Nat) (note : Readiness) : Prop :=
  ∃ bits, (bits, note.token) ∈ Reactor.reports r.world ∧ note.events = Interest.ofEpoll bits ∧
    r.Enrolled i note.socket note.token

theorem reported_of_delivered (h : note ∈ r.delivered i x) : x = .poll ∧ r.Reported i note := by
  cases x with
  | poll =>
    obtain ⟨notes, hq, hnotes⟩ := queue_poll r i
    simp only [delivered, hq, List.drop_left] at h
    obtain ⟨⟨bits, token⟩, hreport, hn⟩ := hnotes note h
    obtain ⟨rfl, hevents, hrow⟩ := Reactor.note?_eq_some hn
    exact ⟨rfl, bits, hreport, hevents, hrow⟩
  | _ => cases h

/-- Steps other than polls only take notes. -/
theorem Turn.queue_suffix {settled : Prop} {l : Log} {frames : List Outgoing}
    (h : Turn settled r x l frames r') (hx : x ≠ .poll) (i : Nat) :
    (r'.world.mailbox i).queue <:+ (r.world.mailbox i).queue := by
  cases h with
  | served j hj hs hc => exact hc.queue_suffix i
  | entered settings => exact mailbox_enter r settings i
  | unpolled | polled => exact (hx rfl).elim
  | absent | opened | elapsed => exact List.suffix_rfl

theorem queue_step (ho : r.AllOpen) (x : Input κ) (i : Nat) :
    ((r.step x).1.world.mailbox i).queue <:+ (r.world.mailbox i).queue ++ r.delivered i x := by
  by_cases hx : x = .poll
  · obtain ⟨notes, hq, -⟩ := queue_poll r i
    simp only [hx, delivered, hq, List.drop_left]
    exact List.suffix_rfl
  · have hnone : r.delivered i x = [] := by
      cases x with
      | poll => exact (hx rfl).elim
      | _ => rfl
    obtain ⟨l, ht⟩ := step_turn False ho x False.elim
    rw [hnone, List.append_nil]
    exact ht.queue_suffix hx i

theorem queue_suffix_arrivals (ho : r.AllOpen) (xs : List (Input κ)) (i : Nat) :
    ((r.run xs).world.mailbox i).queue <:+
      (r.world.mailbox i).queue ++ (r.arrivals i xs).map Prod.snd := by
  induction xs generalizing r with
  | nil => simp [arrivals]
  | cons x xs ih =>
    obtain ⟨l, ht⟩ := step_turn False ho x False.elim
    refine (ih (ht.allOpen ho)).trans ?_
    obtain ⟨gone, hgone⟩ := queue_step ho x i
    refine ⟨gone, ?_⟩
    simp [arrivals, ← List.append_assoc, ← hgone, Function.comp_def]

/-- Every arrival comes from one poll of the run. -/
theorem poll_of_mem_arrivals {xs : List (Input κ)} {a : Relay κ × Readiness}
    (h : a ∈ r.arrivals i xs) : ∃ ys zs, xs = ys ++ .poll :: zs ∧ a.1 = r.run ys ∧
      a.1.Reported i a.2 := by
  induction xs generalizing r with
  | nil => cases h
  | cons x xs ih =>
    rcases List.mem_append.1 h with h | h
    · obtain ⟨note, hnote, rfl⟩ := List.mem_map.1 h
      obtain ⟨rfl, hreported⟩ := reported_of_delivered hnote
      exact ⟨[], xs, rfl, rfl, hreported⟩
    · obtain ⟨ys, zs, rfl, hr, hreported⟩ := ih h
      exact ⟨x :: ys, zs, rfl, hr, hreported⟩

end Relay

end SocketRelay
