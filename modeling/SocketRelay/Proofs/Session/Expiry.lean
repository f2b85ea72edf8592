import SocketRelay.Proofs.Protocol.Message
import SocketRelay.Proofs.Session.Operation

/-!
# The expiry of connects

A walk over the sockets of a session ends those whose connect has been pending for the timeout, and
only those. In which order the sockets are visited does not matter: what is left, what was given up
and how many there were is the same for every order, and the frames are the same up to their order.

So a second walk at the same instant finds nothing to do, and two walks at different instants do
what the later one does alone. The calls of two walks may be answered differently; nothing that is
said here depends on the answers.
-/
namespace SocketRelay
open History (openDescriptors watch?)
open Protocol (Event)
open SocketRelay.Action (Ends)

/-- From the first world to the second these descriptors were given up: each is unregistered and
closed, and nothing else happened. -/
structure World.Released {κ : Type} (w : World κ) (ds : List Descriptor) (w' : World κ) : Prop where
  calls : ∃ calls, w'.history = calls ++ w.history ∧
    ∀ x ∈ calls, ∃ d ∈ ds, x.call = .epollRemove d ∨ x.call = .close d
  opened : openDescriptors w'.history = (openDescriptors w.history).filter (· ∉ ds)
  watched : ∀ d, watch? d w'.history = if d ∈ ds then none else watch? d w.history
  reactor : w'.reactor = w.reactor.withTable (w.reactor.table.filter fun d _ => d ∉ ds)
  mailboxes : w'.mailboxes = w.mailboxes
  now : w'.now = w.now

namespace World.Released
variable {κ : Type} {w w' w'' : World κ} {ds ds' : List Descriptor} {d : Descriptor}

theorem of_idle (hm : w.Moved [] w.reactor w') : w.Released [] w' where
  calls := ⟨[], hm.history, nofun⟩
  opened := by
    rw [hm.history]
    exact (List.filter_eq_self.2 fun _ _ => rfl).symm
  watched d := by rw [hm.history]; rfl
  reactor := by
    have htable : (w.reactor.table.filter fun d _ => d ∉ []) = w.reactor.table :=
      Table.ext_rows (List.filter_eq_self.2 fun _ _ => rfl)
    rw [hm.reactor, htable]
    rfl
  mailboxes := hm.mailboxes
  now := hm.now

theorem of_close {calls : List Exchange}
    (hcalls : ∀ x ∈ calls, x.call = .epollRemove d)
    (hopened : openDescriptors (calls ++ w.history) = openDescriptors w.history)
    (hwatched : ∀ e, d ≠ e → watch? e (calls ++ w.history) = watch? e w.history)
    (hm : w.Moved (⟨.close d, ()⟩ :: calls) (w.reactor.withTable (w.reactor.table.erase d)) w') :
    w.Released [d] w' where
  calls := by
    refine ⟨_, hm.history, List.forall_mem_cons.2 ⟨⟨d, by simp, .inr rfl⟩, fun x hx => ?_⟩⟩
    exact ⟨d, by simp, .inl (hcalls x hx)⟩
  opened := by
    rw [hm.history, List.cons_append, openDescriptors, hopened]
    simp
  watched e := by
    rw [hm.history, List.cons_append, watch?]
    by_cases hd : d = e
    · simp [hd]
    · rw [if_neg hd, hwatched e hd, if_neg (by simpa using Ne.symm hd)]
  reactor := by
    rw [hm.reactor, Table.erase]
    simp
  mailboxes := hm.mailboxes
  now := hm.now

theorem trans (h : w.Released ds w') (h' : w'.Released ds' w'') : w.Released (ds ++ ds') w'' where
  calls := by
    obtain ⟨calls, hc, hon⟩ := h.calls
    obtain ⟨calls', hc', hon'⟩ := h'.calls
    refine ⟨calls' ++ calls, by rw [hc', hc, List.append_assoc], fun x hx => ?_⟩
    rcases List.mem_append.1 hx with hx | hx
    · obtain ⟨d, hd, hcall⟩ := hon' x hx
      exact ⟨d, List.mem_append_right ds hd, hcall⟩
    · obtain ⟨d, hd, hcall⟩ := hon x hx
      exact ⟨d, List.mem_append_left ds' hd, hcall⟩
  opened := by
    rw [h'.opened, h.opened, List.filter_filter]
    congr 1
    ext d
    simp [Bool.and_comm]
  watched d := by
    rw [h'.watched, h.watched]
    by_cases hd : d ∈ ds <;> by_cases hd' : d ∈ ds' <;> simp [hd, hd']
  reactor := by
    rw [h'.reactor, h.reactor]
    simp only [Reactor.withTable, Table.filter_filter]
    congr 2
    ext d
    simp
  mailboxes := h'.mailboxes.trans h.mailboxes
  now := h'.now.trans h.now

/-- Giving up a descriptor releases it, be it registered or not. -/
theorem of_closing {held : Option Descriptor} {calls : List Exchange} {rx : Reactor}
    (h : VirtualSocket.Closing w.reactor held calls rx) (hm : w.Moved calls rx w') :
    w.Released held.toList w' := by
  cases h with
  | nothing => exact of_idle hm
  | unwatched d hn => exact of_close (List.forall_mem_nil _) rfl (fun _ _ => rfl) hm
  | watched d answer =>
    refine of_close (List.forall_mem_singleton.2 rfl) rfl (fun e hne => ?_) hm
    cases answer with
    | ok => exact if_neg hne
    | error e => rfl

theorem gone (h : w.Released ds w') (hd : d ∈ ds) : w'.reactor.table.get? d = none ∧
    d ∉ openDescriptors w'.history ∧ watch? d w'.history = none := by
  refine ⟨?_, ?_, ?_⟩
  · rw [h.reactor, Reactor.withTable_table, Table.get?_filter]
    simp [hd]
  · rw [h.opened]
    simp [hd]
  · rw [h.watched, if_pos hd]

theorem kept (h : w.Released ds w') (hd : d ∉ ds) :
    w'.reactor.table.get? d = w.reactor.table.get? d ∧
      (d ∈ openDescriptors w.history → d ∈ openDescriptors w'.history) ∧
      watch? d w'.history = watch? d w.history := by
  refine ⟨?_, fun ho => ?_, ?_⟩
  · rw [h.reactor, Reactor.withTable_table, Table.get?_filter]
    cases w.reactor.table.get? d <;> simp [hd]
  · rw [h.opened]
    exact List.mem_filter.2 ⟨ho, by simpa using hd⟩
  · rw [h.watched, if_neg hd]

end World.Released

namespace VirtualSocket
variable {κ : Type} {v : VirtualSocket} {w : World κ} {now timeout : Nat}

/-- The socket's connect has been pending for the timeout. A connect that began later than the
present instant has been pending for no time. -/
def stalled (timeout now : Nat) (v : VirtualSocket) : Bool :=
  v.connectStarted.any fun started => timeout ≤ now - started

theorem stalled_mono {later : Nat} (h : now ≤ later) (hs : v.stalled timeout now) :
    v.stalled timeout later := by
  unfold stalled at hs ⊢
  cases hc : v.connectStarted with
  | none => simp [hc] at hs
  | some started =>
    simp only [hc, Option.any_some, decide_eq_true_eq] at hs ⊢
    omega

variable [OperatingSystem κ]

/-- A stalled connect fails: the socket is closed and the client is told. -/
theorem expireConnect_stalled (hs : v.stalled timeout now) (hv : v.closed = false) :
    (v.expireConnect now timeout).Ends w fun r w' =>
      r = (v.shut, [.connected v.id false], true) ∧ w.Released v.descriptor.toList w' := by
  unfold expireConnect
  unfold stalled at hs
  cases hc : v.connectStarted with
  | none => simp [hc] at hs
  | some started =>
    have hdue : timeout ≤ now - started := by simpa [hc] using hs
    dsimp only
    rw [if_pos hdue]
    unfold failConnect
    refine Ends.bind (Ends.bind (close_ends hv) fun v' w' h => Ends.pure ?_)
      fun r w' (h : r = (v.shut, [Event.connected v.id false]) ∧
        w.Released v.descriptor.toList w') => Ends.pure ?_
    · obtain ⟨rfl, calls, rx, hclosing, hm⟩ := h
      exact ⟨rfl, .of_closing hclosing hm⟩
    · obtain ⟨rfl, hw⟩ := h
      exact ⟨rfl, hw⟩

theorem expireConnect_idle (hs : v.stalled timeout now = false) :
    v.expireConnect (κ := κ) now timeout = pure (v, [], false) := by
  unfold expireConnect
  unfold stalled at hs
  cases hc : v.connectStarted with
  | none => rfl
  | some started =>
    have hdue : ¬ timeout ≤ now - started := by simpa [hc] using hs
    dsimp only
    rw [if_neg hdue]

end VirtualSocket

namespace Session
variable {κ : Type} {s s' : Session} {w w' : World κ} {k : SocketId} {v : VirtualSocket}
variable {now timeout : Nat} {order : List (SocketId × VirtualSocket)}

/-- The sockets of a list whose connects have been pending for the timeout. -/
def stalledAmong (timeout now : Nat) (order : List (SocketId × VirtualSocket)) :
    List (SocketId × VirtualSocket) :=
  order.filter fun row => row.2.stalled timeout now

/-- The real sockets behind a list of sockets. -/
def descriptorsOf (order : List (SocketId × VirtualSocket)) : List Descriptor :=
  order.filterMap fun row => row.2.descriptor

/-- The session without the sockets of these numbers. -/
def without (s : Session) (ks : List SocketId) : Session :=
  { s with sockets := s.sockets.filter fun k _ => k ∉ ks }

theorem without_nil (s : Session) : s.without [] = s := by
  have htable : (s.sockets.filter fun k _ => k ∉ []) = s.sockets :=
    Table.ext_rows (List.filter_eq_self.2 fun _ _ => rfl)
  rw [without, htable]

theorem reap_store_closed (hc : v.closed) (ks : List SocketId) :
    (s.store k v).reap.without ks = s.reap.without (k :: ks) := by
  have herased : (s.sockets.insert k v).filter (fun _ u => !u.closed) =
      (s.sockets.filter fun _ u => !u.closed).erase k :=
    Table.filter_insert_of_fails (p := fun _ u => !u.closed) s.sockets (by simp [hc])
  unfold reap store without
  dsimp only
  rw [herased, Table.erase, Table.filter_filter]
  congr 2
  ext j
  simp

/-- What a walk leaves: without the sockets that it ended, each of which is told to have failed and
has given up its descriptor. -/
structure Walked (timeout now : Nat) (order : List (SocketId × VirtualSocket)) (s : Session)
    (w : World κ) (r : Session × List Event × Nat) (w' : World κ) : Prop where
  reaped : r.1.reap = s.reap.without ((stalledAmong timeout now order).map Prod.fst)
  events : r.2.1 = (stalledAmong timeout now order).map fun row => .connected row.1 false
  count : r.2.2 = (stalledAmong timeout now order).length
  world : w.Released (descriptorsOf (stalledAmong timeout now order)) w'

variable [OperatingSystem κ]

/-- A walk ends the stalled sockets that it comes by, in its order, and touches no other. -/
theorem expireAll_ends (hd : (order.map Prod.fst).Nodup) (hr : s.Holds order)
    (hid : ∀ row ∈ order, row.2.id = row.1) :
    (expireAll now timeout order s).Ends w (Walked timeout now order s w) := by
  induction order generalizing s w with
  | nil => exact Ends.pure ⟨s.reap.without_nil.symm, rfl, rfl, .of_idle (.refl w)⟩
  | cons row order ih =>
    obtain ⟨k, v⟩ := row
    simp only [List.map_cons, List.nodup_cons] at hd
    obtain ⟨⟨hk, hv⟩, hr⟩ : _ ∧ s.Holds order := List.forall_mem_cons.1 hr
    obtain ⟨hvid, hid⟩ := List.forall_mem_cons.1 hid
    unfold expireAll
    cases hs : v.stalled timeout now with
    | true =>
      have hgone : stalledAmong timeout now ((k, v) :: order) =
          (k, v) :: stalledAmong timeout now order := List.filter_cons_of_pos hs
      refine Ends.bind (VirtualSocket.expireConnect_stalled hs hv) ?_
      rintro _ w₁ ⟨rfl, hw₁⟩
      refine Ends.bind (ih hd.2 (hr.store hd.1 v.shut) hid) ?_
      rintro ⟨s', later, count⟩ w₂ h
      refine Ends.pure ⟨?_, ?_, ?_, ?_⟩
      · rw [hgone, List.map_cons, ← reap_store_closed (v := v.shut) rfl]
        exact h.reaped
      · rw [hgone, List.map_cons, ← h.events]
        dsimp only
        rw [hvid, List.singleton_append]
      · rw [hgone, List.length_cons, ← h.count]
        exact Nat.add_comm _ _
      · have hboth := hw₁.trans h.world
        rw [hgone]
        unfold descriptorsOf at hboth ⊢
        rw [List.filterMap_cons]
        cases hdescriptor : v.descriptor with
        | none => rwa [hdescriptor] at hboth
        | some d => rwa [hdescriptor] at hboth
    | false =>
      have hgone : stalledAmong timeout now ((k, v) :: order) = stalledAmong timeout now order :=
        List.filter_cons_of_neg (by simp [hs])
      rw [VirtualSocket.expireConnect_idle hs]
      refine Ends.bind (p := fun r w' => r = (v, [], false) ∧ w' = w) ⟨rfl, rfl⟩ ?_
      rintro _ _ ⟨rfl, rfl⟩
      dsimp only
      rw [store, Table.insert_of_get? hk]
      refine Ends.bind (ih hd.2 hr hid) ?_
      rintro ⟨s', later, count⟩ w₂ h
      refine Ends.pure ⟨?_, ?_, ?_, ?_⟩
      · rw [hgone]
        exact h.reaped
      · rw [hgone]
        exact h.events
      · rw [hgone, ← h.count]
        exact Nat.zero_add _
      · rw [hgone]
        exact h.world

/-- Where no socket is stalled a walk does nothing at all. -/
theorem expireAll_idle (hr : s.Holds order) (hidle : stalledAmong timeout now order = []) :
    expireAll (κ := κ) now timeout order s = pure (s, [], 0) := by
  induction order with
  | nil => rfl
  | cons row order ih =>
    obtain ⟨k, v⟩ := row
    obtain ⟨⟨hk, -⟩, hr⟩ : _ ∧ s.Holds order := List.forall_mem_cons.1 hr
    obtain ⟨hs, hidle⟩ := List.forall_mem_cons.1 (List.filter_eq_nil_iff.1 hidle)
    have hs : v.stalled timeout now = false := by simpa using hs
    unfold expireAll
    rw [VirtualSocket.expireConnect_idle hs, pure_bind]
    dsimp only
    rw [store, Table.insert_of_get? hk, ih hr (List.filter_eq_nil_iff.2 hidle)]
    rfl

/-- The session without the sockets whose connects have been pending for the timeout. -/
def withoutStalled (timeout now : Nat) (s : Session) : Session :=
  { s with sockets := s.sockets.filter fun _ v => !v.stalled timeout now }

/-- The frame that tells of a failed connect. -/
def failureFrame (k : SocketId) : Bytes := (Event.connected k false).document.layout

theorem encode_connected_false (k : SocketId) :
    (Event.connected k false).encode = .ok (failureFrame k) := by
  obtain ⟨frame, hframe⟩ := Event.encode_of_length (e := .connected k false) nofun
  obtain ⟨hlength, -⟩ := Protocol.writeDocument_eq_ok.1 hframe
  exact Protocol.writeDocument_eq_ok.2 ⟨hlength, rfl⟩

theorem emit_failures (rows : List (SocketId × VirtualSocket)) :
    emit (rows.map fun row => .connected row.1 false) =
      (rows.map fun row => failureFrame row.1, []) := by
  induction rows with
  | nil => rfl
  | cons row rows ih =>
    rw [List.map_cons, emit, ih]
    dsimp only
    rw [encode_connected_false, List.map_cons]

/-- The expiry of connects with the sockets visited in some order. -/
def expireInOrder (s : Session) (order : List (SocketId × VirtualSocket)) (now : Nat) :
    Action κ (Reply × Nat) := do
  match s.settings.connectTimeout with
  | none => return ({ session := s }, 0)
  | some timeout =>
    let (after, events, expired) ← expireAll now timeout order s
    if expired = 0 then return ({ session := s }, 0)
    return (after.reap.reply [] events, expired)

theorem expireStalledConnects_eq (s : Session) (now : Nat) (order : SocketOrder) :
    s.expireStalledConnects (κ := κ) now order = s.expireInOrder (order.visit s.sockets) now := rfl

/-- What the expiry leaves and writes: the stalled sockets are gone, one frame tells of each of
them, and their descriptors have been given up; nothing else is changed, written or called. -/
structure Expired (timeout now : Nat) (s : Session) (order : List (SocketId × VirtualSocket))
    (w : World κ) (r : Reply × Nat) (w' : World κ) : Prop where
  session : r.1.session = s.withoutStalled timeout now
  frames : r.1.frames = (stalledAmong timeout now order).map fun row => failureFrame row.1
  notices : r.1.notices = []
  count : r.2 = (stalledAmong timeout now order).length
  world : w.Released (descriptorsOf (stalledAmong timeout now order)) w'

/-- A session whose sockets are open and know their numbers. -/
structure Tidy (s : Session) : Prop where
  allOpen : s.AllOpen
  numbered : ∀ k v, s.sockets.get? k = some v → v.id = k

theorem Tidy.withoutStalled (h : s.Tidy) : (s.withoutStalled timeout now).Tidy := by
  have hkept : ∀ k v, (s.withoutStalled timeout now).sockets.get? k = some v →
      s.sockets.get? k = some v := by
    intro k v hv
    rw [Session.withoutStalled, Table.get?_filter, Option.filter_eq_some_iff] at hv
    exact hv.1
  exact ⟨fun k v hv => h.allOpen k v (hkept k v hv), fun k v hv => h.numbered k v (hkept k v hv)⟩

/-- Without the stalled sockets of any walk over all its sockets the session has none. -/
theorem without_stalledAmong (hp : order.Perm s.sockets.rows) :
    s.without ((stalledAmong timeout now order).map Prod.fst) = s.withoutStalled timeout now := by
  have hrows : s.sockets.rows.filter
      (fun row => row.1 ∉ (stalledAmong timeout now order).map Prod.fst) =
      s.sockets.rows.filter fun row => !row.2.stalled timeout now := by
    refine List.filter_congr fun row hrow => ?_
    have hmem : row.1 ∈ (stalledAmong timeout now order).map Prod.fst ↔
        row.2.stalled timeout now := by
      constructor
      · intro h
        obtain ⟨other, hother, hkey⟩ := List.mem_map.1 h
        obtain ⟨hother, hs⟩ := List.mem_filter.1 hother
        have hsame : some row.2 = some other.2 := by
          rw [← Table.get?_eq_some_iff.2 hrow, ← hkey]
          exact Table.get?_eq_some_iff.2 (hp.mem_iff.1 hother)
        rwa [Option.some.inj hsame]
      · intro hs
        exact List.mem_map_of_mem (List.mem_filter.2 ⟨hp.mem_iff.2 hrow, hs⟩)
    simp [hmem]
  unfold without withoutStalled
  congr 1
  exact Table.ext_rows hrows

/-- Expiry ends exactly the stalled sockets. -/
theorem expireInOrder_ends (h : s.Tidy) (ht : s.settings.connectTimeout = some timeout)
    (hp : order.Perm s.sockets.rows) :
    (s.expireInOrder order now).Ends w (Expired timeout now s order w) := by
  have hd : (order.map Prod.fst).Nodup := (hp.map Prod.fst).nodup_iff.2 s.sockets.distinct
  have hid : ∀ row ∈ order, row.2.id = row.1 := fun row hrow =>
    h.numbered _ _ (Table.get?_eq_some_iff.2 (hp.mem_iff.1 hrow))
  unfold expireInOrder
  rw [ht]
  refine Ends.bind (expireAll_ends hd (h.allOpen.holds hp) hid) ?_
  rintro ⟨after, events, expired⟩ w' hafter
  have hsession := hafter.reaped
  rw [h.allOpen.reap_eq, without_stalledAmong hp] at hsession
  dsimp only
  split
  · rename_i hnone
    have hcount : (stalledAmong timeout now order).length = 0 := by rw [← hafter.count, hnone]
    have hempty := List.eq_nil_of_length_eq_zero hcount
    have hsame : s = s.withoutStalled timeout now := by
      rw [← without_stalledAmong hp, hempty]
      exact s.without_nil.symm
    refine Ends.pure ⟨hsame, ?_, rfl, ?_, hafter.world⟩
    · rw [hempty]
      rfl
    · rw [hempty]
      rfl
  · have hevents : events = _ := hafter.events
    rw [reply, hevents, emit_failures]
    exact Ends.pure ⟨hsession, rfl, rfl, hafter.count, hafter.world⟩

theorem expireInOrder_idle (hr : s.Holds order) (ht : s.settings.connectTimeout = some timeout)
    (hidle : stalledAmong timeout now order = []) (w : World κ) :
    s.expireInOrder order now w = (({ session := s }, 0), w) := by
  unfold expireInOrder
  rw [ht]
  dsimp only
  rw [expireAll_idle hr hidle]
  rfl

omit [OperatingSystem κ] in
/-- What holds of a session for its expiry holds again afterwards. -/
theorem Expired.next {r : Reply × Nat} (h : Expired timeout now s order w r w') (hs : s.Tidy)
    (ht : s.settings.connectTimeout = some timeout) :
    r.1.session.Tidy ∧ r.1.session.settings.connectTimeout = some timeout := by
  rw [h.session]
  exact ⟨hs.withoutStalled, ht⟩

theorem stalledAmong_withoutStalled
    (hp : order.Perm (s.withoutStalled timeout now).sockets.rows) :
    stalledAmong timeout now order = [] := by
  refine List.filter_eq_nil_iff.2 fun row hrow => ?_
  have hkept := (List.mem_filter.1 (hp.mem_iff.1 hrow)).2
  simpa using hkept

/-- What is stalled at the later instant is stalled at the earlier one, or among what was left
then. -/
theorem stalledAmong_append {later : Nat} {before after both : List (SocketId × VirtualSocket)}
    (h : now ≤ later) (hbefore : before.Perm s.sockets.rows)
    (hafter : after.Perm (s.withoutStalled timeout now).sockets.rows)
    (hboth : both.Perm s.sockets.rows) :
    (stalledAmong timeout now before ++ stalledAmong timeout later after).Perm
      (stalledAmong timeout later both) := by
  have hfirst : (stalledAmong timeout now before).Perm
      ((stalledAmong timeout later s.sockets.rows).filter
        fun row => row.2.stalled timeout now) := by
    refine (hbefore.filter _).trans (List.Perm.of_eq ?_)
    rw [stalledAmong, List.filter_filter]
    refine List.filter_congr fun row _ => ?_
    cases hs : row.2.stalled timeout now with
    | true => simp [VirtualSocket.stalled_mono h hs]
    | false => rfl
  have hsecond : (stalledAmong timeout later after).Perm
      ((stalledAmong timeout later s.sockets.rows).filter fun row =>
        !row.2.stalled timeout now) := by
    refine (hafter.filter _).trans (List.Perm.of_eq ?_)
    rw [stalledAmong, List.filter_filter]
    change (s.sockets.rows.filter fun row => !row.2.stalled timeout now).filter _ = _
    rw [List.filter_filter]
    exact List.filter_congr fun row _ => Bool.and_comm _ _
  calc List.Perm (stalledAmong timeout now before ++ stalledAmong timeout later after) _ :=
        hfirst.append hsecond
    List.Perm _ (stalledAmong timeout later s.sockets.rows) := List.filter_append_perm _ _
    List.Perm _ (stalledAmong timeout later both) := (hboth.filter _).symm

omit [OperatingSystem κ] in
/-- Two expiries do what the later one does alone. -/
theorem Expired.twice {later : Nat} {before after both : List (SocketId × VirtualSocket)}
    {r r₁ r₂ : Reply × Nat} {w₁ w₂ : World κ} (h : now ≤ later)
    (hbefore : before.Perm s.sockets.rows) (hafter : after.Perm r₁.1.session.sockets.rows)
    (hboth : both.Perm s.sockets.rows) (h₁ : Expired timeout now s before w r₁ w₁)
    (h₂ : Expired timeout later r₁.1.session after w₁ r₂ w₂)
    (h₃ : Expired timeout later s both w r w') :
    r₂.1.session = r.1.session ∧ w₂.reactor = w'.reactor ∧
      (r₁.1.frames ++ r₂.1.frames).Perm r.1.frames ∧ r₁.2 + r₂.2 = r.2 := by
  rw [h₁.session] at hafter
  have hperm := stalledAmong_append h hbefore hafter hboth
  refine ⟨?_, ?_, ?_, ?_⟩
  · rw [h₂.session, h₁.session, h₃.session]
    unfold withoutStalled
    dsimp only
    rw [Table.filter_filter]
    congr 2
    ext k v
    cases hs : v.stalled timeout now with
    | true => simp [VirtualSocket.stalled_mono h hs]
    | false => rfl
  · have hmem : ∀ d, d ∈ descriptorsOf (stalledAmong timeout now before) ++
        descriptorsOf (stalledAmong timeout later after) ↔
        d ∈ descriptorsOf (stalledAmong timeout later both) := by
      intro d
      unfold descriptorsOf
      rw [← List.filterMap_append]
      exact (hperm.filterMap _).mem_iff
    rw [(h₁.world.trans h₂.world).reactor, h₃.world.reactor]
    simp only [hmem]
  · rw [h₁.frames, h₂.frames, h₃.frames, ← List.map_append]
    exact hperm.map _
  · rw [h₁.count, h₂.count, h₃.count, ← List.length_append]
    exact hperm.length_eq

end Session

end SocketRelay
