import SocketRelay.Proofs.Socket.Operation
import SocketRelay.Session.Basic

/-!
# What a session may do

The acts of a session: it lets one of its sockets act, takes a note from its mailbox and drops it or
lets the socket handle it, forgets sockets that are closed, and closes itself. `Course` is a
sequence of acts. Every operation of a session is a course, whatever the system answers, except that
a request for a new socket may add one; an invariant of sessions therefore only has to survive one
act. A socket that a course leaves in the table has been there all the time.

A course keeps a log of the traffic of each socket, in order. Its events are the ones that the
operation writes.
-/
namespace SocketRelay
open Protocol (Event)

def World.withQueue {κ : Type} (w : World κ) (id : MailboxId) (queue : List Readiness) : World κ :=
  { w with mailboxes := w.mailboxes.insert id { w.mailbox id with queue } }

theorem World.mailbox_of_mailboxes {κ : Type} {w w' : World κ} (h : w'.mailboxes = w.mailboxes)
    (id : MailboxId) : w'.mailbox id = w.mailbox id :=
  congrArg (fun t => (t.get? id).getD default) h

theorem World.mailbox_withQueue {κ : Type} (w : World κ) (id j : MailboxId)
    (queue : List Readiness) :
    (w.withQueue id queue).mailbox j =
      if j = id then { w.mailbox id with queue } else w.mailbox j := by
  unfold withQueue World.mailbox
  simp only [Table.get?_insert]
  split <;> rfl

theorem Mailbox.queue_post {box box' : Mailbox} {note : Readiness}
    (h : box.post? note = some box') : box'.queue = box.queue ++ [note] := by
  unfold post? at h
  split at h
  · cases h
  · cases h
    rfl

/-- Traffic of sockets, the oldest first. -/
abbrev Log := List (SocketId × Traffic)

namespace Log

def events (l : Log) : List Event := l.flatMap fun a => a.2.events

def of : Log → SocketId → Traffic
  | [], _ => {}
  | a :: l, k => (if a.1 = k then a.2 else {}) ++ of l k

@[simp] theorem events_nil : events [] = [] := rfl
@[simp] theorem events_cons (a : SocketId × Traffic) (l : Log) :
    events (a :: l) = a.2.events ++ events l := rfl
@[simp] theorem events_append (l l' : Log) : events (l ++ l') = events l ++ events l' := by
  simp [events]
@[simp] theorem of_nil (k : SocketId) : of [] k = {} := rfl
@[simp] theorem of_cons (a : SocketId × Traffic) (l : Log) (k : SocketId) :
    of (a :: l) k = (if a.1 = k then a.2 else {}) ++ of l k := rfl

@[simp] theorem of_append (l l' : Log) (k : SocketId) : of (l ++ l') k = of l k ++ of l' k := by
  induction l with
  | nil => rfl
  | cons a l ih => rw [List.cons_append, of_cons, of_cons, ih, Traffic.append_assoc]

theorem of_single (a : SocketId × Traffic) (k : SocketId) :
    of [a] k = if a.1 = k then a.2 else {} := Traffic.append_nothing _

/-- Nothing in the log came from the client. -/
def Unasked (l : Log) : Prop := ∀ k, (l.of k).accepted = [] ∧ (l.of k).dismissed = false

theorem unasked_nil : Unasked [] := fun _ => ⟨rfl, rfl⟩

theorem unasked_single (k : SocketId) (events : List Event) : Unasked [(k, { events })] := by
  intro j
  rw [of_single]
  split
  · exact ⟨rfl, rfl⟩
  · exact ⟨rfl, rfl⟩

theorem Unasked.append {l l' : Log} (h : l.Unasked) (h' : l'.Unasked) : Unasked (l ++ l') := by
  intro k
  rw [of_append, Traffic.accepted_append, Traffic.dismissed_append, (h k).1, (h k).2, (h' k).1,
    (h' k).2]
  exact ⟨rfl, rfl⟩

/-- Every event names the socket whose traffic it is part of. -/
def Named (l : Log) : Prop := ∀ a ∈ l, ∀ e ∈ a.2.events, e.socketId = a.1

/-- The events of a socket are those that name it. -/
theorem Named.events_of {l : Log} (h : l.Named) (k : SocketId) :
    l.events.filter (fun e => e.socketId = k) = (l.of k).events := by
  induction l with
  | nil => rfl
  | cons a l ih =>
    obtain ⟨ha, hl⟩ := List.forall_mem_cons.1 h
    rw [events_cons, List.filter_append, ih hl, of_cons, Traffic.events_append]
    split
    · rename_i hk
      rw [List.filter_eq_self.2 fun e he => decide_eq_true ((ha e he).trans hk)]
    · rename_i hk
      rw [List.filter_eq_nil_iff.2 fun e he => by simpa [ha e he] using hk]

end Log

namespace Session
open VirtualSocket (Conduct Rearmed)

/-- The socket that a note is handled by, unless the note is dropped. -/
def handler? (s : Session) (note : Readiness) : Option VirtualSocket :=
  if s.closed then none
  else (s.sockets.get? note.socket).filter fun v => v.token = some note.token

theorem handler?_eq_some {s : Session} {note : Readiness} {v : VirtualSocket}
    (h : s.handler? note = some v) : s.closed = false ∧ s.sockets.get? note.socket = some v ∧
      v.token = some note.token := by
  unfold handler? at h
  split at h
  · cases h
  · rename_i hc
    simpa [hc, Option.filter_eq_some_iff] using h

/-- One act: session and world before, the traffic, session and world after. Under `settled` a
handled note has been enough to decide a pending connect. -/
inductive Act {κ : Type} (settled : Prop) (s : Session) (w : World κ) :
    Log → Session → World κ → Prop
  | acted {v t v' w'} (k) : s.sockets.get? k = some v →
      Conduct s.context True True v w t v' w' → Act settled s w [(k, t)] (s.store k v') w'
  | unarmed {v t data v' w₁ w'} (k d) : s.sockets.get? k = some v → v.live? = some d →
      Conduct s.context True True v w t v w₁ → Reactor.SetFailed d w₁ w' →
      Conduct s.context True False v w { accepted := data } v' w' →
      Act settled s w [(k, {})] (s.store k v') w'
  | dropped (note queue) : (w.mailbox s.mailbox).queue = note :: queue →
      s.handler? note = none → Act settled s w [] s (w.withQueue s.mailbox queue)
  | handled {v t v' w'} (note queue) : (w.mailbox s.mailbox).queue = note :: queue →
      s.handler? note = some v →
      Conduct s.context settled False v (w.withQueue s.mailbox queue) t v' w' →
      (v.live?.isSome → v'.closed ∨
        Rearmed s.context settled v (w.withQueue s.mailbox queue) t v' w') →
      Act settled s w [(note.socket, t)] (s.store note.socket v') w'
  | forgot (p) : (∀ k v, s.sockets.get? k = some v → p k v = false → v.closed) →
      Act settled s w [] { s with sockets := s.sockets.filter p } w
  | closed : s.closed = false → s.sockets = Table.empty →
      Act settled s w [] { s with closed := true } (w.withQueue s.mailbox [])

/-- A sequence of acts. -/
inductive Course {κ : Type} (settled : Prop) (s : Session) (w : World κ) :
    Log → Session → World κ → Prop
  | rest : Course settled s w [] s w
  | act {l s' w' l' s'' w''} : Course settled s w l s' w' → Act settled s' w' l' s'' w'' →
      Course settled s w (l ++ l') s'' w''

variable {κ : Type} {settled : Prop} {s s' s'' : Session} {w w' w'' : World κ} {l l' : Log}

theorem Course.single (h : Act settled s w l s' w') : Course settled s w l s' w' :=
  Course.rest.act h

theorem Course.trans (h : Course settled s w l s' w') (h' : Course settled s' w' l' s'' w'') :
    Course settled s w (l ++ l') s'' w'' := by
  induction h' with
  | rest => simpa using h
  | act _ ha ih => rw [← List.append_assoc]; exact ih.act ha

theorem Course.quietly (h : Course settled s w l s' w') (ha : Act settled s' w' [] s'' w'') :
    Course settled s w l s'' w'' := by
  simpa using h.act ha

theorem Act.history (h : Act settled s w l s' w') : ∃ calls, w'.history = calls ++ w.history := by
  cases h with
  | acted k hv hc => exact hc.history
  | unarmed k d hv hd ht hf hc => exact hc.history
  | handled note queue hq hv hc hr => exact hc.history
  | _ => exact ⟨[], rfl⟩

theorem Course.history (h : Course settled s w l s' w') :
    ∃ calls, w'.history = calls ++ w.history := by
  induction h with
  | rest => exact ⟨[], rfl⟩
  | act _ ha ih =>
    obtain ⟨calls, hc⟩ := ih
    obtain ⟨more, hm⟩ := ha.history
    exact ⟨more ++ calls, by rw [hm, hc, List.append_assoc]⟩

/-- An act changes nothing about a session but its table and whether it is closed. -/
theorem Act.fixed (h : Act settled s w l s' w') :
    s' = { s with sockets := s'.sockets, closed := s'.closed } := by
  cases h <;> rfl

theorem Course.fixed (h : Course settled s w l s' w') :
    s' = { s with sockets := s'.sockets, closed := s'.closed } := by
  induction h with
  | rest => rfl
  | act _ ha ih =>
    have hlast := ha.fixed
    rw [ih] at hlast
    exact hlast

theorem Act.absent {k : SocketId} (h : Act settled s w l s' w') (hk : s.sockets.get? k = none) :
    s'.sockets.get? k = none ∧ l.of k = {} := by
  have hstore : ∀ {m u v t}, s.sockets.get? m = some u →
      (s.store m v).sockets.get? k = none ∧ Log.of [(m, t)] k = {} := by
    intro m u v t hm
    have hkm : k ≠ m := by
      rintro rfl
      rw [hk] at hm
      cases hm
    rw [store, Table.get?_insert, if_neg hkm, Log.of_single, if_neg (Ne.symm hkm)]
    exact ⟨hk, rfl⟩
  cases h with
  | acted m hm | unarmed m d hm => exact hstore hm
  | handled note queue hq hn => exact hstore (handler?_eq_some hn).2.1
  | dropped | closed => exact ⟨hk, rfl⟩
  | forgot p =>
    rw [Table.get?_filter, hk]
    exact ⟨rfl, rfl⟩

theorem Course.absent {k : SocketId} (h : Course settled s w l s' w')
    (hk : s.sockets.get? k = none) : s'.sockets.get? k = none ∧ l.of k = {} := by
  induction h with
  | rest => exact ⟨hk, rfl⟩
  | act _ ha ih =>
    obtain ⟨hk', hl⟩ := ha.absent ih.1
    rw [Log.of_append, ih.2, hl]
    exact ⟨hk', rfl⟩

end Session

end SocketRelay
