import SocketRelay.Proofs.Relay.Isolation

/-!
# Rows are for descriptors that are held

In every state of a relay a row of the reactor's table that is for some session is for a descriptor
that one of its sockets holds. This is said for one session and holds whatever the system does and
whatever becomes of the descriptors of other sessions.
-/
namespace SocketRelay

namespace VirtualSocket
variable {ctx : SocketContext} {settled steady : Prop} {v v' : VirtualSocket} {r r' : Reactor}
variable {calls : List Exchange} {t : Traffic} {d : Descriptor} {registration : Registration}

/-- A row after a deed is the socket's own, or it was there before and the socket has not just given
up its descriptor. -/
theorem Deed.rows (h : Deed ctx settled steady v r calls t v' r')
    (hr : r'.table.get? d = some registration) :
    registration.mailbox = ctx.mailbox ∧ v'.descriptor = some d ∨
      (∃ before, r.table.get? d = some before ∧ before.mailbox = registration.mailbox) ∧
        (v.descriptor = some d → v'.descriptor = some d) := by
  have hrenewed : ∀ {e : Descriptor} {before : Registration} {interest : Interest},
      r.table.get? e = some before →
      (r.table.insert e { before with interest }).get? d = some registration →
      ∃ before, r.table.get? d = some before ∧ before.mailbox = registration.mailbox := by
    intro e before interest he hr
    rw [Table.get?_insert] at hr
    split at hr
    · rename_i hde
      cases hr
      exact ⟨before, hde ▸ he, rfl⟩
    · exact ⟨registration, hr, rfl⟩
  cases h with
  | misfired hd hc hm =>
    refine .inr ⟨?_, fun hv => hv⟩
    cases hm <;> exact ⟨registration, hr, rfl⟩
  | opened e setup hd hc hb =>
    change (r.table.insert e _).get? d = _ at hr
    rw [Table.get?_insert] at hr
    split at hr
    · rename_i hde
      cases hr
      exact .inl ⟨rfl, congrArg some hde.symm⟩
    · refine .inr ⟨⟨registration, hr, rfl⟩, fun hv => ?_⟩
      cases hd.symm.trans hv
  | queuedFirst e rest hd hk ho hl he => exact .inr ⟨hrenewed he hr, fun hv => hv⟩
  | rearmed e hd he => exact .inr ⟨hrenewed he hr, fun hv => hv⟩
  | ended hc he hcl =>
    have herased : ∀ {e}, (r.table.erase e).get? d = some registration →
        d ≠ e ∧ r.table.get? d = some registration := by
      intro e hr
      rw [Table.get?_erase] at hr
      split at hr
      · cases hr
      · exact ⟨‹_›, hr⟩
    refine .inr ?_
    generalize hv : v.descriptor = own at hcl ⊢
    cases hcl with
    | nothing => exact ⟨⟨registration, hr, rfl⟩, fun hv => by cases hv⟩
    | unwatched e | watched e =>
      obtain ⟨hne, hr⟩ := herased hr
      refine ⟨⟨registration, hr, rfl⟩, fun hde => ?_⟩
      cases hde
      exact (hne rfl).elim
  | _ => exact .inr ⟨⟨registration, hr, rfl⟩, fun hv => hv⟩

end VirtualSocket

namespace Relay
open VirtualSocket (Deed Conduct)
variable {κ : Type}

/-- Every row for a session is for a descriptor that one of its sockets holds. -/
structure Anchored (r : Relay κ) (i : Nat) : Prop where
  sound : r.AllSound
  addressed : ∀ (j : Nat) (s : Session), r.sessions[j]? = some s → s.mailbox = j
  rows : ∀ d registration, r.world.reactor.table.get? d = some registration →
    registration.mailbox = i → r.Owns i d

section
variable {r r' : Relay κ} {i j : Nat} {s s' : Session} {k : SocketId} {v v' : VirtualSocket}
variable {w' : World κ}

theorem addressed_put (h : ∀ (j : Nat) (s : Session), r.sessions[j]? = some s → s.mailbox = j)
    (hs : r.sessions[j]? = some s) (hm : s'.mailbox = s.mailbox) :
    ∀ (m : Nat) (u : Session), (r.put j s' w').sessions[m]? = some u → u.mailbox = m := by
  intro m u hu
  rw [sessions_put hs] at hu
  split at hu
  · rename_i hmj
    cases hu
    rw [hm, hmj, h j s hs]
  · exact h m u hu

/-- The table has the rows that it had, and the session's own sockets hold what they held. -/
theorem Anchored.quiet (h : r.Anchored i) (hsound : r'.AllSound)
    (haddressed : ∀ (j : Nat) (s : Session), r'.sessions[j]? = some s → s.mailbox = j)
    (hr : r'.world.reactor = r.world.reactor) (hown : ∀ d, r.Owns i d → r'.Owns i d) :
    r'.Anchored i := by
  refine ⟨hsound, haddressed, fun d registration hrow hm => ?_⟩
  rw [hr] at hrow
  exact hown d (h.rows d registration hrow hm)

theorem Anchored.deed (h : r.Anchored i) {settled steady : Prop} {calls : List Exchange}
    {t : Traffic} {rx : Reactor} (hs : r.sessions[j]? = some s) (hv : s.sockets.get? k = some v)
    (hd : Deed s.context settled steady v r.world.reactor calls t v' rx)
    (hm : r.world.Moved calls rx w') : (r.put j (s.store k v') w').Anchored i := by
  refine ⟨h.sound.deed hs hv hd, addressed_put h.addressed hs rfl, fun d registration hr hi => ?_⟩
  change w'.reactor.table.get? d = _ at hr
  rw [hm.reactor] at hr
  rcases hd.rows hr with ⟨hmailbox, hheld⟩ | ⟨⟨before, hbefore, hsame⟩, hkept⟩
  · have hji : i = j := hi.symm.trans (hmailbox.trans (h.addressed j s hs))
    exact ⟨k, v', by rw [socket?_store hs, if_pos ⟨hji, rfl⟩], hheld⟩
  · obtain ⟨m, u, hu, hud⟩ := h.rows d before hbefore (hsame.trans hi)
    by_cases hown : i = j ∧ m = k
    · obtain ⟨rfl, rfl⟩ := hown
      cases hu.symm.trans ((socket?_of_session hs m).trans hv)
      exact ⟨m, v', by rw [socket?_store hs, if_pos ⟨rfl, rfl⟩], hkept hud⟩
    · exact ⟨m, u, by rw [socket?_store hs, if_neg hown, hu], hud⟩

theorem Anchored.conduct (h : r.Anchored i) {settled steady : Prop} {t : Traffic}
    (hs : r.sessions[j]? = some s) (hv : s.sockets.get? k = some v)
    (hc : Conduct s.context settled steady v r.world t v' w') :
    (r.put j (s.store k v') w').Anchored i :=
  conduct_preserves (p := fun r _ => r.Anchored i) (q := fun _ => True) (fun _ _ _ => trivial)
    (fun h hs hv hd hm _ => h.deed hs hv hd hm) hs hv hc h trivial

/-- A socket that is closed holds nothing, so it may be forgotten. -/
theorem Anchored.forgot (h : r.Anchored i) (hs : r.sessions[j]? = some s)
    {p : SocketId → VirtualSocket → Bool}
    (hp : ∀ k v, s.sockets.get? k = some v → p k v = false → v.closed) :
    (r.put j { s with sockets := s.sockets.filter p } r.world).Anchored i := by
  refine h.quiet (h.sound.forgot hs p) (addressed_put h.addressed hs rfl) rfl fun d hown => ?_
  obtain ⟨m, u, hu, hd⟩ := hown
  refine ⟨m, u, (socket?_forgot hs p i m u).2 ⟨hu, fun hij => ?_⟩, hd⟩
  refine (Bool.eq_false_or_eq_true _).resolve_right fun hpm => ?_
  have hclosed := hp m u (by rw [← socket?_of_session hs, ← hij]; exact hu) hpm
  rw [(h.sound i m u hu).1.released hclosed] at hd
  cases hd

theorem Anchored.added (h : r.Anchored i) (hs : r.sessions[j]? = some s)
    (hk : s.sockets.get? k = none) (kind : SocketKind) :
    (r.put j (s.store k { id := k, kind }) r.world).Anchored i := by
  refine h.quiet (h.sound.store hs ⟨VirtualSocket.sound_new k kind, rfl⟩)
    (addressed_put h.addressed hs rfl) rfl fun d hown => ?_
  obtain ⟨m, u, hu, hd⟩ := hown
  refine ⟨m, u, ?_, hd⟩
  rw [socket?_store hs]
  split
  · rename_i hown
    obtain ⟨rfl, rfl⟩ := hown
    rw [socket?_of_session hs, hk] at hu
    cases hu
  · exact hu

theorem Anchored.act (h : r.Anchored i) {settled : Prop} {l : Log} (hs : r.sessions[j]? = some s)
    (ha : Session.Act settled s r.world l s' w') : (r.put j s' w').Anchored i := by
  have hsound := h.sound.act hs ha
  cases ha with
  | acted k hv hc => exact h.conduct hs hv hc
  | unarmed k d hv hd hc hf hc' => exact h.conduct hs hv hc'
  | dropped note queue =>
    rw [put_same hs]
    exact ⟨h.sound, h.addressed, h.rows⟩
  | @handled v t v' w' note queue hq hv hc hr =>
    have hqueue : Anchored { r with world := r.world.withQueue s.mailbox queue } i :=
      ⟨h.sound, h.addressed, h.rows⟩
    exact hqueue.conduct hs (Session.handler?_eq_some hv).2.1 hc
  | forgot p hp => exact h.forgot hs hp
  | closed hc he =>
    refine h.quiet hsound (addressed_put h.addressed hs rfl) rfl fun d hown => ?_
    obtain ⟨m, u, hu, hd⟩ := hown
    exact ⟨m, u, by rw [socket?_closed hs, hu], hd⟩

theorem Anchored.course (h : r.Anchored i) {settled : Prop} {l : Log} (hs : r.sessions[j]? = some s)
    (hc : Session.Course settled s r.world l s' w') : (r.put j s' w').Anchored i :=
  course_preserves (p := fun r _ => r.Anchored i) (q := fun _ => True) (fun _ _ _ => trivial)
    (fun h hs ha _ => h.act hs ha) hs hc h trivial

theorem Anchored.turn [OperatingSystem κ] (h : r.Anchored i) {settled : Prop} {x : Input κ}
    {l : Log} {frames : List Outgoing} (ht : Turn settled r x l frames r') : r'.Anchored i := by
  have hsound := h.sound.turn ht
  cases ht with
  | absent j hx hn => exact h
  | served j hx hs hc => exact h.course hs hc
  | opened j k kind hx hs hc hz hk hs' =>
    rw [hs']
    exact h.added hs hk kind
  | entered settings =>
    refine h.quiet hsound (fun j s hj => ?_) rfl fun d hown => ?_
    · rw [sessions_enter] at hj
      split at hj
      · rename_i hlast
        cases hj
        exact hlast.symm
      · exact h.addressed j s hj
    · obtain ⟨m, u, hu, hd⟩ := hown
      exact ⟨m, u, by rw [socket?_enter, hu], hd⟩
  | unpolled hm => exact h.quiet hsound h.addressed hm.reactor fun _ hown => hown
  | polled hm hd =>
    exact h.quiet hsound h.addressed (hd.reactor.trans hm.reactor) fun _ hown => hown
  | elapsed system now => exact h.quiet hsound h.addressed rfl fun _ hown => hown

end

end Relay

end SocketRelay
