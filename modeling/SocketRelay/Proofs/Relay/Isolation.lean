import SocketRelay.Proofs.Relay.Ownership
import SocketRelay.Proofs.Socket.Confinement

/-!
# Sessions do not touch each other

A deed of one socket leaves every other socket as it was, with its row in the reactor's table and
what the system watches for that row, and it makes calls on the socket's own descriptor only. So an
operation of one session leaves the others as they were: their sockets, their mailboxes, the rows of
the reactor's table that name them and what the system watches for those rows; and it keeps to the
descriptors that the session holds or is given meanwhile.
-/
namespace SocketRelay.Relay
open History (OpensFresh openDescriptors watch? Gained Confined)
open VirtualSocket (Deed Conduct)
variable {κ : Type}

/-- Between these two states nothing happened to any session but one. -/
structure Apart (i : Nat) (r r' : Relay κ) : Prop where
  sessions : ∀ j, j ≠ i → r'.sessions[j]? = r.sessions[j]?
  mailboxes : ∀ j, j ≠ i → r'.world.mailbox j = r.world.mailbox j
  rows : ∀ d registration, registration.mailbox ≠ i →
    (r'.world.reactor.table.get? d = some registration ↔
      r.world.reactor.table.get? d = some registration)
  watches : ∀ d registration, registration.mailbox ≠ i →
    r.world.reactor.table.get? d = some registration →
    watch? d r'.world.history = watch? d r.world.history

/-- Between these two states nothing happened to any socket but one, and no mailbox has changed. -/
structure Beside (i : Nat) (k : SocketId) (r r' : Relay κ) : Prop where
  sessions : ∀ j, j ≠ i → r'.sessions[j]? = r.sessions[j]?
  sockets : ∀ m, m ≠ k → r'.socket? i m = r.socket? i m
  mailboxes : ∀ j, r'.world.mailbox j = r.world.mailbox j
  rows : ∀ d registration, ¬ (registration.mailbox = i ∧ registration.socket = k) →
    (r'.world.reactor.table.get? d = some registration ↔
      r.world.reactor.table.get? d = some registration)
  watches : ∀ d registration, ¬ (registration.mailbox = i ∧ registration.socket = k) →
    r.world.reactor.table.get? d = some registration →
    watch? d r'.world.history = watch? d r.world.history

def Owns (r : Relay κ) (i : Nat) (d : Descriptor) : Prop :=
  ∃ k v, r.socket? i k = some v ∧ v.descriptor = some d

/-- Between these two states a session made calls on its own descriptors and on such as it was given
meanwhile, and it holds no others now. -/
def Keeps (i : Nat) (r r' : Relay κ) : Prop :=
  ∃ calls, r'.world.history = calls ++ r.world.history ∧
    Confined (r.Owns i) r.world.history calls ∧ ∀ d, r'.Owns i d → Gained (r.Owns i) calls d

section
variable {r r' r'' : Relay κ} {i : Nat} {s s' : Session} {k : SocketId} {v v' : VirtualSocket}
variable {w' : World κ}

theorem Apart.refl (i : Nat) (r : Relay κ) : Apart i r r :=
  ⟨fun _ _ => rfl, fun _ _ => rfl, fun _ _ _ => .rfl, fun _ _ _ _ => rfl⟩

theorem Apart.trans (h : Apart i r r') (h' : Apart i r' r'') : Apart i r r'' where
  sessions j hj := (h'.sessions j hj).trans (h.sessions j hj)
  mailboxes j hj := (h'.mailboxes j hj).trans (h.mailboxes j hj)
  rows d registration hm := (h'.rows d registration hm).trans (h.rows d registration hm)
  watches d registration hm hr :=
    (h'.watches d registration hm ((h.rows d registration hm).2 hr)).trans
      (h.watches d registration hm hr)

/-- Another session put in place, in a world where table and calls stayed. -/
theorem Apart.put (hs : r.sessions[i]? = some s) (hr : w'.reactor = r.world.reactor)
    (hh : w'.history = r.world.history)
    (hm : ∀ j, j ≠ i → w'.mailbox j = r.world.mailbox j) : Apart i r (r.put i s' w') where
  sessions j hj := by rw [sessions_put hs, if_neg hj]
  mailboxes j hj := hm j hj
  rows d registration _ := by
    change w'.reactor.table.get? d = _ ↔ _
    rw [hr]
  watches d registration _ _ := by
    change watch? d w'.history = _
    rw [hh]

theorem Beside.refl (i : Nat) (k : SocketId) (r : Relay κ) : Beside i k r r :=
  ⟨fun _ _ => rfl, fun _ _ => rfl, fun _ => rfl, fun _ _ _ => .rfl, fun _ _ _ _ => rfl⟩

theorem Beside.trans (h : Beside i k r r') (h' : Beside i k r' r'') : Beside i k r r'' where
  sessions j hj := (h'.sessions j hj).trans (h.sessions j hj)
  sockets m hm := (h'.sockets m hm).trans (h.sockets m hm)
  mailboxes j := (h'.mailboxes j).trans (h.mailboxes j)
  rows d registration hm := (h'.rows d registration hm).trans (h.rows d registration hm)
  watches d registration hm hr :=
    (h'.watches d registration hm ((h.rows d registration hm).2 hr)).trans
      (h.watches d registration hm hr)

theorem Beside.apart (h : Beside i k r r') : Apart i r r' where
  sessions := h.sessions
  mailboxes j _ := h.mailboxes j
  rows d registration hm := h.rows d registration fun hk => hm hk.1
  watches d registration hm := h.watches d registration fun hk => hm hk.1

theorem Keeps.refl (i : Nat) (r : Relay κ) : Keeps i r r := ⟨[], rfl, trivial, fun _ => .inl⟩

theorem Keeps.trans (h : Keeps i r r') (h' : Keeps i r' r'') : Keeps i r r'' := by
  obtain ⟨calls, hh, hc, hg⟩ := h
  obtain ⟨calls', hh', hc', hg'⟩ := h'
  rw [hh] at hc' hh'
  refine ⟨calls' ++ calls, by rw [hh', List.append_assoc], hc.append hc' hg, fun d hd => ?_⟩
  exact (hg' d hd).mono hg

theorem keeps_of_subset (hh : r'.world.history = r.world.history)
    (hsub : ∀ k v, r'.socket? i k = some v → r.socket? i k = some v) : Keeps i r r' := by
  refine ⟨[], hh, trivial, fun d hd => ?_⟩
  obtain ⟨k, v, hv, hd⟩ := hd
  exact .inl ⟨k, v, hsub k v hv, hd⟩

/-- At most one descriptor is concerned, and its row belongs to the socket before and after. -/
theorem Beside.row {d : Descriptor} (hs : r.sessions[i]? = some s)
    (hm : w'.mailboxes = r.world.mailboxes)
    (ht : ∀ e, e ≠ d → w'.reactor.table.get? e = r.world.reactor.table.get? e)
    (hold : ∀ registration, r.world.reactor.table.get? d = some registration →
      registration.mailbox = i ∧ registration.socket = k)
    (hnew : ∀ registration, w'.reactor.table.get? d = some registration →
      registration.mailbox = i ∧ registration.socket = k)
    (hw : ∀ e, e ≠ d → watch? e w'.history = watch? e r.world.history) :
    Beside i k r (r.put i (s.store k v') w') where
  sessions j hj := by rw [sessions_put hs, if_neg hj]
  sockets m hm := by rw [socket?_store hs, if_neg fun h => hm h.2]
  mailboxes := World.mailbox_of_mailboxes hm
  rows e registration hne := by
    change w'.reactor.table.get? e = _ ↔ _
    by_cases hed : e = d
    · rw [hed]
      exact ⟨fun h => (hne (hnew registration h)).elim, fun h => (hne (hold registration h)).elim⟩
    · rw [ht e hed]
  watches e registration hne he := by
    have hed : e ≠ d := fun hed => hne (hold registration (hed ▸ he))
    exact hw e hed

theorem Owned.beside_deed (h : r.Owned) {settled steady : Prop} {calls : List Exchange}
    {t : Traffic} {rx : Reactor} (hs : r.sessions[i]? = some s) (hv : s.sockets.get? k = some v)
    (hd : Deed s.context settled steady v r.world.reactor calls t v' rx)
    (hm : r.world.Moved calls rx w') (hf : OpensFresh w'.history) :
    Beside i k r (r.put i (s.store k v') w') := by
  have hik : r.socket? i k = some v := (socket?_of_session hs k).trans hv
  obtain ⟨hsound, hid⟩ := h.sound i k v hik
  have hmailbox : s.context.mailbox = i := (h.formed i s hs).mailbox
  have hown : ∀ d registration, v.descriptor = some d →
      r.world.reactor.table.get? d = some registration →
      registration.mailbox = i ∧ registration.socket = k := by
    intro d registration hd hr
    obtain ⟨token, ht⟩ := hsound.token_of_descriptor hd
    obtain ⟨interest, he⟩ := h.matched.entry i k d token ((holds_of_socket? hik d token).2 ⟨hd, ht⟩)
    cases hr.symm.trans he
    exact ⟨rfl, rfl⟩
  have he := hd.effect hsound r.world.history (hm.history ▸ hf) h.matched.watched
  rw [← hm.history, ← hm.reactor, hmailbox] at he
  cases he with
  | kept hd ht hr ho hw =>
    refine ⟨fun j hj => by rw [sessions_put hs, if_neg hj],
      fun m hm => by rw [socket?_store hs, if_neg fun h => hm h.2], fun j => ?_, fun e g _ => ?_,
      fun e g _ _ => hw e⟩
    · exact World.mailbox_of_mailboxes hm.mailboxes j
    · change w'.reactor.table.get? e = _ ↔ _
      rw [hr]
  | renewed d registration hd hd' ht hreg hr ho hwd hw =>
    refine .row (d := d) hs hm.mailboxes (fun e he => ?_) (fun _ => hown d _ hd) (fun g hg => ?_) hw
    · rw [hr, Table.get?_insert, if_neg he]
    · rw [hr, Table.get?_insert_self] at hg
      cases hg
      exact hown d registration hd hreg
  | opened d token hd hd' ht htd hfresh hr ho hwd hw =>
    refine .row (d := d) hs hm.mailboxes (fun e he => ?_) (fun g hg => ?_) (fun g hg => ?_) hw
    · rw [hr, Table.get?_insert, if_neg he]
    · exact (hfresh (h.matched.listed d g hg).2.1).elim
    · rw [hr, Table.get?_insert_self] at hg
      cases hg
      exact ⟨rfl, hid⟩
  | closed d hd hd' ht hr ho hwd hw =>
    refine .row (d := d) hs hm.mailboxes (fun e he => ?_) (fun _ => hown d _ hd) (fun g hg => ?_) hw
    · rw [hr, Table.get?_erase, if_neg he]
    · rw [hr, Table.get?_erase_self] at hg
      cases hg

theorem Owned.keeps_deed (h : r.Owned) {settled steady : Prop} {calls : List Exchange} {t : Traffic}
    {rx : Reactor} (hs : r.sessions[i]? = some s) (hv : s.sockets.get? k = some v)
    (hd : Deed s.context settled steady v r.world.reactor calls t v' rx)
    (hm : r.world.Moved calls rx w') : Keeps i r (r.put i (s.store k v') w') := by
  have hik : r.socket? i k = some v := (socket?_of_session hs k).trans hv
  have hown : ∀ d, v.descriptor = some d → Gained (r.Owns i) [] d :=
    fun d hd => .inl ⟨k, v, hik, hd⟩
  have hopen : ∀ d, v.descriptor = some d → d ∈ openDescriptors r.world.history := by
    intro d hd
    obtain ⟨token, interest, armed, ht, htd, hr, ho, hw⟩ := h.row hik hd
    exact ho
  have hconfined : Confined (r.Owns i) r.world.history (calls ++ []) :=
    Confined.append trivial (hd.confined r.world.history hopen) hown
  rw [List.append_nil] at hconfined
  refine ⟨calls, hm.history, hconfined, fun d hd' => ?_⟩
  obtain ⟨m, u, hu, hud⟩ := hd'
  rw [socket?_store hs] at hu
  split at hu
  · cases hu
    have hgained := (hd.gained hud).mono hown
    rwa [List.append_nil] at hgained
  · exact .inl ⟨m, u, hu, hud⟩

/-- A conduct concerns its socket alone, and keeps to the descriptors of its session. -/
theorem Owned.beside_conduct (h : r.Owned) {settled steady : Prop} {t : Traffic}
    (hs : r.sessions[i]? = some s) (hv : s.sockets.get? k = some v)
    (hc : Conduct s.context settled steady v r.world t v' w') (hf : OpensFresh w'.history) :
    Beside i k r (r.put i (s.store k v') w') ∧ Keeps i r (r.put i (s.store k v') w') := by
  refine (conduct_preserves (p := fun r' _ => r'.Owned ∧ Beside i k r r' ∧ Keeps i r r')
    (fun _ _ => History.Throughout.of_append) ?_ hs hv hc ⟨h, .refl i k r, .refl i r⟩ hf).2
  intro r' t s v calls t' v' rx w' hp hs hv hd hm hf
  obtain ⟨ho, hb, hk⟩ := hp
  exact ⟨ho.deed hs hv hd hm hf, hb.trans (ho.beside_deed hs hv hd hm hf),
    hk.trans (ho.keeps_deed hs hv hd hm)⟩

theorem Apart.withQueue (s' : Session) (hs : r.sessions[i]? = some s) (hm : s.mailbox = i)
    (queue : List Readiness) : Apart i r (r.put i s' (r.world.withQueue s.mailbox queue)) :=
  .put hs rfl rfl fun j hj => by
    rw [World.mailbox_withQueue, hm, if_neg hj]

theorem Owned.isolated_act (h : r.Owned) {settled : Prop} {l : Log} (hs : r.sessions[i]? = some s)
    (ha : Session.Act settled s r.world l s' w') (hf : OpensFresh w'.history) :
    Apart i r (r.put i s' w') ∧ Keeps i r (r.put i s' w') := by
  have hm := (h.formed i s hs).mailbox
  cases ha with
  | acted k hv hc => exact (h.beside_conduct hs hv hc hf).imp_left Beside.apart
  | unarmed k d hv hd hc hf' hc' => exact (h.beside_conduct hs hv hc' hf).imp_left Beside.apart
  | dropped note queue =>
    refine ⟨.withQueue s hs hm queue, keeps_of_subset rfl fun m u hu => ?_⟩
    rwa [put_same hs] at hu
  | handled note queue hq hv hc hr =>
    have hfirst := Apart.withQueue s hs hm queue
    rw [put_same hs] at hfirst
    obtain ⟨hb, hk⟩ := (h.withQueue s.mailbox queue).beside_conduct hs
      (Session.handler?_eq_some hv).2.1 hc hf
    have hkeep : Keeps i r { r with world := r.world.withQueue s.mailbox queue } :=
      keeps_of_subset rfl fun _ _ hu => hu
    exact ⟨hfirst.trans hb.apart, hkeep.trans hk⟩
  | forgot p hp =>
    refine ⟨.put hs rfl rfl fun _ _ => rfl, keeps_of_subset rfl fun m u hu => ?_⟩
    exact ((socket?_forgot hs p i m u).1 hu).1
  | closed hc he =>
    refine ⟨.withQueue _ hs hm [], keeps_of_subset rfl fun m u hu => ?_⟩
    rwa [socket?_closed hs] at hu

/-- What a session does leaves the others alone, and keeps to its own descriptors. -/
theorem Owned.isolated_course (h : r.Owned) {settled : Prop} {l : Log}
    (hs : r.sessions[i]? = some s) (hc : Session.Course settled s r.world l s' w')
    (hf : OpensFresh w'.history) : Apart i r (r.put i s' w') ∧ Keeps i r (r.put i s' w') := by
  refine (course_preserves (p := fun r' _ => r'.Owned ∧ Apart i r r' ∧ Keeps i r r')
    (fun _ _ => History.Throughout.of_append) ?_ hs hc ⟨h, .refl i r, .refl i r⟩ hf).2
  intro r' l s l' s' w' hp hs ha hf
  obtain ⟨ho, hapart, hkeep⟩ := hp
  have hact := ho.isolated_act hs ha hf
  exact ⟨ho.act hs ha hf, hapart.trans hact.1, hkeep.trans hact.2⟩

end

end SocketRelay.Relay
