import SocketRelay.Proofs.Relay.Ownership

/-!
# No lost wake-up

A registration is good for one report. Afterwards its descriptor is silent, and the socket behind it
hears nothing more unless someone arms it again: the session when the socket has handled the note,
the reactor when the mailbox had no room for it. `Awake` says that this never goes wrong for a
socket: what is watched is what the socket waits for, and it is armed, or a note that will arm it
again is waiting.

Within a round of the reactor a note may be neither armed nor posted; it is due. Within the handling
of a note nothing at all may be under way for the socket concerned, but it is the last thing done
there that its registration is set.

Assumed is that fresh descriptors are fresh, and that modifying an entry of the interest list does
not fail.
-/
namespace SocketRelay.Relay
open History (OpensFresh ModifiesListed openDescriptors watch?)
open VirtualSocket (Deed Effect Conduct Rearmed)
variable {κ : Type}

/-- A note for a registration is in the mailbox of its session, or due to be posted there. -/
def Noted (due : List (MailboxId × Readiness)) (w : World κ) (i : Nat) (k : SocketId)
    (token : Token) : Prop :=
  ∃ note : Readiness, note.socket = k ∧ note.token = token ∧
    (note ∈ (w.mailbox i).queue ∨ (i, note) ∈ due)

/-- The socket will hear of its descriptor, and of what it waits for. -/
def Awake (due : List (MailboxId × Readiness)) (w : World κ) (i : Nat) (k : SocketId)
    (v : VirtualSocket) : Prop :=
  ∀ d registration entry, v.descriptor = some d → w.reactor.table.get? d = some registration →
    watch? d w.history = some entry →
      registration.interest = v.interest ∧ (entry.armed ∨ Noted due w i k registration.token)

/-- All sockets will hear of their descriptors. -/
def Alert (due : List (MailboxId × Readiness)) (r : Relay κ) : Prop :=
  ∀ i k v, r.socket? i k = some v → Awake due r.world i k v

section
variable {r : Relay κ} {due due' : List (MailboxId × Readiness)} {w w' : World κ} {i j : Nat}
variable {s : Session} {k m : SocketId} {v v' u : VirtualSocket} {settled steady : Prop}
variable {note : Readiness} {queue : List Readiness}

theorem awake_of_bare (hd : v.descriptor = none) : Awake due w i k v := by
  intro d registration entry hd'
  rw [hd] at hd'
  cases hd'

/-- Row and watch stayed, and no note of the registration was lost. -/
theorem Awake.frame (h : Awake due w i k v)
    (hr : ∀ d, v.descriptor = some d → w'.reactor.table.get? d = w.reactor.table.get? d ∧
      watch? d w'.history = watch? d w.history)
    (hn : ∀ d registration, v.descriptor = some d →
      w.reactor.table.get? d = some registration → Noted due w i k registration.token →
        Noted due' w' i k registration.token) :
    Awake due' w' i k v := by
  intro d registration entry hd hreg hw
  rw [(hr d hd).1] at hreg
  rw [(hr d hd).2] at hw
  obtain ⟨hi, ha⟩ := h d registration entry hd hreg hw
  exact ⟨hi, ha.imp_right (hn d registration hd hreg)⟩

theorem Noted.of_queue {token : Token} (h : Noted due w i k token)
    (hq : ∀ note, note ∈ (w.mailbox i).queue → note ∈ (w'.mailbox i).queue) :
    Noted due w' i k token := by
  obtain ⟨note, hk, ht, hn⟩ := h
  exact ⟨note, hk, ht, hn.imp_left (hq note)⟩

theorem Noted.of_mailboxes {token : Token} (h : Noted due w i k token)
    (hm : w'.mailboxes = w.mailboxes) : Noted due w' i k token := by
  refine h.of_queue fun note hn => ?_
  unfold World.mailbox at hn ⊢
  rwa [hm]

theorem Noted.posted {token : Token} {box : Mailbox}
    (hpost : (w.mailbox j).post? note = some box) (h : Noted ((j, note) :: due) w i k token) :
    Noted due { w with mailboxes := w.mailboxes.insert j box } i k token := by
  have hbox := Mailbox.queue_post hpost
  obtain ⟨other, hk, ht, hn⟩ := h
  refine ⟨other, hk, ht, ?_⟩
  unfold World.mailbox at hbox hn ⊢
  rw [Table.get?_insert]
  split
  · rename_i hij
    rw [Option.getD_some, hbox, ← hij]
    rcases hn with hn | hn
    · exact .inl (List.mem_append_left _ hn)
    · rcases List.mem_cons.1 hn with hn | hn
      · cases hn
        exact .inl List.mem_concat_self
      · exact .inr hn
  · rename_i hij
    refine hn.imp_right fun hn => (List.mem_cons.1 hn).resolve_left fun hn => ?_
    cases hn
    exact hij rfl

theorem Noted.of_cons {token : Token} (h : Noted ((j, note) :: due) w i k token)
    (hne : note.token ≠ token) : Noted due w i k token := by
  obtain ⟨other, hk, ht, hn⟩ := h
  refine ⟨other, hk, ht, hn.imp_right fun hn => (List.mem_cons.1 hn).resolve_left fun hn => ?_⟩
  cases hn
  exact hne ht

theorem awake_of_set (registration : Registration) {d : Descriptor} (hd : v.descriptor = some d)
    (hr : w.reactor.table.get? d = some { registration with interest := v.interest })
    (hw : ∃ bits token, ∀ entry, watch? d w.history = some entry → entry = ⟨bits, token, true⟩) :
    Awake due w i k v := by
  intro e registration' entry he hreg hentry
  obtain rfl : d = e := Option.some.inj (hd.symm.trans he)
  cases hr.symm.trans hreg
  obtain ⟨bits, token, hw⟩ := hw
  exact ⟨rfl, .inl (by rw [hw entry hentry])⟩

theorem Owned.elsewhere_deed (h : r.Owned) {calls : List Exchange} {t : Traffic} {rx : Reactor}
    (hs : r.sessions[i]? = some s) (hv : s.sockets.get? k = some v)
    (hd : Deed s.context settled steady v r.world.reactor calls t v' rx)
    (hm : r.world.Moved calls rx w') (hf : OpensFresh w'.history)
    (hne : ¬ (j = i ∧ m = k)) (hu : r.socket? j m = some u) (ha : Awake due r.world j m u) :
    Awake due w' j m u := by
  have hik : r.socket? i k = some v := (socket?_of_session hs k).trans hv
  have he := hd.effect (h.sound i k v hik).1 r.world.history (hm.history ▸ hf) h.matched.watched
  rw [← hm.history, ← hm.reactor] at he
  refine ha.frame (fun e hud => ?_) fun _ _ _ _ hn => hn.of_mailboxes hm.mailboxes
  obtain ⟨-, -, -, -, -, -, ho, -⟩ := h.row hu hud
  exact he.elsewhere (fun hvd => hne (h.alone hu hud hik hvd)) ho

/-- A steady deed leaves its own socket awake. -/
theorem Owned.awake_deed (h : r.Owned) {calls : List Exchange} {t : Traffic} {rx : Reactor}
    (hs : r.sessions[i]? = some s) (hv : s.sockets.get? k = some v)
    (hd : Deed s.context settled True v r.world.reactor calls t v' rx)
    (hm : r.world.Moved calls rx w') (hf : OpensFresh w'.history)
    (ha : Awake due r.world i k v) : Awake due w' i k v' := by
  have hik : r.socket? i k = some v := (socket?_of_session hs k).trans hv
  have he := hd.effect (h.sound i k v hik).1 r.world.history (hm.history ▸ hf) h.matched.watched
  rw [← hm.history, ← hm.reactor] at he
  cases he with
  | kept hd ht hr ho hw hi =>
    intro d registration entry hd' hreg hentry
    have hi := hi trivial (by simp [hd'])
    rw [hr] at hreg
    rw [hw] at hentry
    obtain ⟨hint, harm⟩ := ha d registration entry (hd.symm.trans hd') hreg hentry
    exact ⟨hint.trans hi.symm, harm.imp_right fun hn => hn.of_mailboxes hm.mailboxes⟩
  | renewed d registration hd hd' ht hreg hr ho hwd hw =>
    refine awake_of_set registration hd' (by rw [hr, Table.get?_insert_self])
      ⟨v'.interest.toEpoll, registration.token, fun entry he => ?_⟩
    rw [hwd] at he
    obtain ⟨-, -, rfl⟩ := Option.map_eq_some_iff.1 he
    rfl
  | opened d token hd hd' ht htd hfresh hr ho hwd hw =>
    refine awake_of_set ⟨token, v.id, v'.interest, s.context.mailbox⟩ hd'
      (by rw [hr, Table.get?_insert_self]) ⟨v'.interest.toEpoll, token, fun entry he => ?_⟩
    exact Option.some.inj (he.symm.trans hwd)
  | closed d hd hd' => exact awake_of_bare hd'

theorem Owned.elsewhere (h : r.Owned) {t : Traffic}
    (hs : r.sessions[i]? = some s) (hv : s.sockets.get? k = some v)
    (hc : Conduct s.context settled steady v r.world t v' w') (hf : OpensFresh w'.history)
    (hne : ¬ (j = i ∧ m = k)) (hu : r.socket? j m = some u) (ha : Awake due r.world j m u) :
    Awake due w' j m u := by
  refine (conduct_preserves (q := OpensFresh)
    (p := fun r' _ => r'.Owned ∧ r'.socket? j m = some u ∧ Awake due r'.world j m u)
    (fun _ _ => History.Throughout.of_append) ?_ hs hv hc ⟨h, hu, ha⟩ hf).2.2
  intro r t s v calls t' v' rx w' hinv hs hv hd hm hf
  obtain ⟨ho, hu, ha⟩ := hinv
  refine ⟨ho.deed hs hv hd hm hf, ?_, ho.elsewhere_deed hs hv hd hm hf hne hu ha⟩
  rw [socket?_store hs, if_neg hne, hu]

theorem Owned.awake (h : r.Owned) {t : Traffic}
    (hs : r.sessions[i]? = some s) (hv : s.sockets.get? k = some v)
    (hc : Conduct s.context settled True v r.world t v' w') (hf : OpensFresh w'.history)
    (ha : Awake due r.world i k v) : Awake due w' i k v' := by
  have hp := conduct_preserves (q := OpensFresh)
    (p := fun r' _ => r'.Owned ∧ ∀ u, r'.socket? i k = some u → Awake due r'.world i k u)
    (fun _ _ => History.Throughout.of_append)
    (fun {r t s v calls t' v' rx w'} hp hs hv hd hm hf => ?_)
    hs hv hc ⟨h, fun u hu => ?_⟩ hf
  · refine hp.2 v' ?_
    rw [socket?_store hs, if_pos ⟨rfl, rfl⟩]
  · obtain ⟨ho, ha⟩ := hp
    refine ⟨ho.deed hs hv hd hm hf, fun u hu => ?_⟩
    rw [socket?_store hs, if_pos ⟨rfl, rfl⟩] at hu
    cases hu
    exact ho.awake_deed hs hv hd hm hf (ha v ((socket?_of_session hs k).trans hv))
  · rw [socket?_of_session hs, hv] at hu
    cases hu
    exact ha

theorem alert_store (hs : r.sessions[i]? = some s)
    (ho : ∀ j m u, ¬ (j = i ∧ m = k) → r.socket? j m = some u → Awake due w' j m u)
    (hk : Awake due w' i k v') : Alert due (r.put i (s.store k v') w') := by
  intro j m u hu
  rw [socket?_store hs] at hu
  split at hu
  · rename_i hjm
    obtain ⟨rfl, rfl⟩ := hjm
    cases hu
    exact hk
  · rename_i hjm
    exact ho j m u hjm hu

/-- A steady conduct leaves everyone awake. -/
theorem Alert.conduct (h : Alert due r) (ho : r.Owned) {t : Traffic}
    (hs : r.sessions[i]? = some s) (hv : s.sockets.get? k = some v)
    (hc : Conduct s.context settled True v r.world t v' w') (hf : OpensFresh w'.history) :
    Alert due (r.put i (s.store k v') w') := by
  have hik : r.socket? i k = some v := (socket?_of_session hs k).trans hv
  apply alert_store hs
  · intro j m u hne hu
    exact ho.elsewhere hs hv hc hf hne hu (h j m u hu)
  · exact ho.awake hs hv hc hf (h i k v hik)

theorem awake_of_rearmed {ctx : SocketContext} {t : Traffic}
    (h : Rearmed ctx settled v w t v' w') : Awake due w' i k v' := by
  obtain ⟨w₁, d, registration, -, hd, hr, hm⟩ := h
  refine awake_of_set registration (VirtualSocket.live?_eq_some.1 hd).2 ?_
    ⟨v'.interest.toEpoll, registration.token, fun entry he => ?_⟩
  · rw [hm.reactor]
    exact Table.get?_insert_self _ _ _
  · rw [hm.history] at he
    simp only [List.singleton_append, watch?, if_true, Option.map_eq_some_iff] at he
    obtain ⟨-, -, rfl⟩ := he
    rfl

/-- A note that its session drops is nobody's. -/
theorem Owned.dropped (h : r.Owned) {d : Descriptor} {registration : Registration}
    (hs : r.sessions[i]? = some s) (hn : s.handler? note = none)
    (hv : r.socket? i note.socket = some v) (hd : v.descriptor = some d)
    (hr : r.world.reactor.table.get? d = some registration) :
    note.token ≠ registration.token := by
  intro ht
  obtain ⟨token, interest, armed, htoken, -, hr', -⟩ := h.row hv hd
  cases hr.symm.trans hr'
  have hopen : s.closed = false := by
    refine Bool.eq_false_iff.2 fun hc => ?_
    rw [socket?_of_session hs, (h.formed i s hs).closed hc] at hv
    cases hv
  rw [socket?_of_session hs] at hv
  unfold Session.handler? at hn
  simp [hopen, hv, htoken, ht] at hn

/-- A queue that lost its first note, seen from a socket that this note was not for. -/
theorem Awake.popped (h : Awake due r.world j m u)
    (hq : (r.world.mailbox i).queue = note :: queue)
    (hn : j = i → m = note.socket → ∀ d registration, u.descriptor = some d →
      r.world.reactor.table.get? d = some registration → note.token ≠ registration.token) :
    Awake due (r.world.withQueue i queue) j m u := by
  refine h.frame (fun _ _ => ⟨rfl, rfl⟩) ?_
  intro d registration hd hr hnoted
  obtain ⟨note', hk, ht, hnote⟩ := hnoted
  refine ⟨note', hk, ht, hnote.imp_left fun hmem => ?_⟩
  rw [World.mailbox_withQueue]
  split
  · rename_i hj
    rw [hj, hq] at hmem
    rcases List.mem_cons.1 hmem with rfl | hmem
    · exact (hn hj hk.symm d registration hd hr ht).elim
    · exact hmem
  · exact hmem

/-- The socket that handles a note is armed again, or it is closed. -/
theorem Alert.handled (h : Alert due r) (ho : r.Owned) {t : Traffic}
    (hs : r.sessions[i]? = some s) (hq : (r.world.mailbox i).queue = note :: queue)
    (hv : s.handler? note = some v)
    (hc : Conduct s.context settled False v (r.world.withQueue i queue) t v' w')
    (hlast : v.live?.isSome →
      v'.closed ∨ Rearmed s.context settled v (r.world.withQueue i queue) t v' w')
    (hf : OpensFresh w'.history) : Alert due (r.put i (s.store note.socket v') w') := by
  obtain ⟨-, hk, htoken⟩ := Session.handler?_eq_some hv
  have howned := ho.withQueue i queue
  have hik : r.socket? i note.socket = some v := (socket?_of_session hs _).trans hk
  obtain ⟨hsound, -⟩ := ho.sound i _ v hik
  apply alert_store hs
  · intro j m u hne hu
    refine howned.elsewhere hs hk hc hf hne hu ((h j m u hu).popped hq ?_)
    intro hj hk'
    exact (hne ⟨hj, hk'⟩).elim
  · have hlive : v.live?.isSome := by
      have hd : v.descriptor ≠ none := fun hn => by simp [(hsound.bare hn).1] at htoken
      obtain ⟨d, hd'⟩ := Option.ne_none_iff_exists'.1 hd
      simp [VirtualSocket.live?_eq_some.2 ⟨(hsound.held hd).2, hd'⟩]
    rcases hlast hlive with hclosed | hrearmed
    · have hik' : (r.put i (s.store note.socket v') w').socket? i note.socket = some v' := by
        rw [socket?_store hs, if_pos ⟨rfl, rfl⟩]
      obtain ⟨hsound', -⟩ := (howned.conduct hs hk hc hf).sound i _ v' hik'
      exact awake_of_bare (hsound'.released hclosed)
    · exact awake_of_rearmed hrearmed

theorem Alert.act (h : Alert due r) (ho : r.Owned) {l : Log} {s' : Session}
    (hs : r.sessions[i]? = some s) (ha : Session.Act settled s r.world l s' w')
    (hf : OpensFresh w'.history) (hm : ModifiesListed w'.history) :
    Alert due (r.put i s' w') := by
  have hmailbox := (ho.formed i s hs).mailbox
  cases ha with
  | acted k hv hc => exact h.conduct ho hs hv hc hf
  | unarmed k d hv hd hc hfail hc' => exact (ho.arms hs hv hc hd hf hm hfail).elim
  | dropped note queue hq hn =>
    rw [hmailbox] at hq ⊢
    rw [put_same hs]
    intro j m u hu
    refine (h j m u hu).popped hq ?_
    intro hj hk d registration hd hr
    rw [hj, hk] at hu
    exact ho.dropped hs hn hu hd hr
  | handled note queue hq hv hc hlast =>
    rw [hmailbox] at hq hc hlast
    exact h.handled ho hs hq hv hc hlast hf
  | forgot p hp =>
    intro j m u hu
    exact h j m u ((socket?_forgot hs p j m u).1 hu).1
  | closed hc he =>
    intro j m u hu
    rw [socket?_put hs] at hu
    split at hu
    · simp [he] at hu
    · rename_i hj
      refine (h j m u hu).frame (fun _ _ => ⟨rfl, rfl⟩) fun _ _ _ _ hn => hn.of_queue ?_
      intro note hnote
      change note ∈ ((r.world.withQueue s.mailbox []).mailbox j).queue
      rwa [World.mailbox_withQueue, hmailbox, if_neg hj]

/-- What a wait disarms, it reports. -/
theorem Alert.waited (h : Alert [] r) (ho : r.Owned) {reports : List (UInt32 × Token)}
    (hm : r.world.Moved [⟨.epollWait r.world.reactor.maxEvents, .ok reports⟩] r.world.reactor w') :
    Alert (reports.filterMap (Reactor.note? r.world.reactor.table)) { r with world := w' } := by
  intro i k v hv d registration entry hd hreg hentry
  obtain ⟨token, interest, armed, -, htd, hr, -, hw⟩ := ho.row hv hd
  rw [hm.reactor] at hreg
  cases hr.symm.trans hreg
  obtain ⟨hint, harm⟩ := h i k v hv d _ _ hd hr hw
  refine ⟨hint, ?_⟩
  rw [hm.history] at hentry
  simp only [List.singleton_append, watch?, hw, Option.map_some, Option.some.injEq] at hentry
  subst hentry
  unfold Watch.afterReports
  split
  · rename_i hreported
    right
    obtain ⟨report, hreport, rfl⟩ := List.mem_map.1 hreported.2
    refine ⟨⟨k, report.2, Interest.ofEpoll report.1⟩, rfl, rfl, .inr ?_⟩
    refine List.mem_filterMap.2 ⟨report, hreport, ?_⟩
    simp [Reactor.note?, htd, hr]
  · refine harm.imp_right fun hn => ?_
    obtain ⟨note, hk, ht, hnote | hnote⟩ := hn
    · refine ⟨note, hk, ht, .inl ?_⟩
      unfold World.mailbox at hnote ⊢
      rwa [hm.mailboxes]
    · cases hnote

theorem Awake.rearmed (h : Awake ((j, note) :: due) w i k v) {holds : Holding}
    {registration : Registration} {answer : Except Errno Unit}
    (hm : Matched holds w.reactor.table w.history)
    (hr : w.reactor.table.get? note.token.descriptor = some registration)
    (hw : w.Moved
      [⟨.epollModify note.token.descriptor registration.interest.toEpoll note.token, answer⟩]
      w.reactor w')
    (hf : ModifiesListed w'.history) : Awake due w' i k v := by
  intro d registration' entry hd hreg hentry
  rw [hw.reactor] at hreg
  rw [hw.history] at hentry hf
  obtain ⟨-, -, armed, hlisted⟩ := hm.listed _ registration hr
  cases answer with
  | error e =>
    have hn : watch? note.token.descriptor w.history = none := of_decide_eq_true hf.1
    rw [hlisted] at hn
    cases hn
  | ok =>
    simp only [List.singleton_append, watch?] at hentry
    split at hentry
    · obtain ⟨s, hs, rfl⟩ := Option.map_eq_some_iff.1 hentry
      obtain ⟨hint, -⟩ := h d registration' s hd hreg hs
      exact ⟨hint, .inl rfl⟩
    · rename_i hed
      obtain ⟨hint, harm⟩ := h d registration' entry hd hreg hentry
      refine ⟨hint, harm.imp_right fun hn => (hn.of_cons fun ht => ?_).of_mailboxes hw.mailboxes⟩
      obtain ⟨htd, -⟩ := hm.listed d registration' hreg
      exact hed (by rw [ht, htd])

/-- What is due is posted, or its registration is armed again. -/
theorem Awake.delivered {holds : Holding} {notes : List (MailboxId × Readiness)}
    (hd : Reactor.Delivery w notes w') (hm : Matched holds w.reactor.table w.history)
    (hf : ModifiesListed w'.history) (ha : Awake notes w i k v) : Awake [] w' i k v := by
  induction hd with
  | done => exact ha
  | posted hpost _ ih =>
    exact ih hm hf (ha.frame (fun _ _ => ⟨rfl, rfl⟩) fun _ _ _ _ hn => hn.posted hpost)
  | @stale w j note rest w' hstale _ ih =>
    refine ih hm hf (ha.frame (fun _ _ => ⟨rfl, rfl⟩) fun d registration _ hr hn => ?_)
    refine hn.of_cons fun ht => ?_
    obtain ⟨htd, -⟩ := hm.listed d registration hr
    exact hstale registration (by rw [ht, htd, hr]) ht.symm
  | @rearmed w w₁ j note registration rest w' answer hr ht hw hrest ih =>
    have hm₁ : Matched holds w₁.reactor.table w₁.history := by
      rw [hw.reactor, hw.history, ← ht]
      exact hm.rearmed (ht ▸ hr) answer
    have hf₁ : ModifiesListed w₁.history := by
      obtain ⟨calls, hcalls, -⟩ := hrest.calls
      rw [hcalls] at hf
      exact hf.of_append
    exact ih hm₁ hf (ha.rearmed hm hr hw hf₁)

theorem Alert.turn [OperatingSystem κ] {r' : Relay κ} (h : Alert [] r) (ho : r.Owned)
    {x : Input κ} {l : Log} {frames : List Outgoing} (ht : Turn settled r x l frames r')
    (hf : OpensFresh r'.world.history) (hm : ModifiesListed r'.world.history) : Alert [] r' := by
  cases ht with
  | absent i hx hn => exact h
  | served i hx hs hc =>
    exact (course_preserves (q := fun h => OpensFresh h ∧ ModifiesListed h)
      (p := fun r _ => r.Owned ∧ Alert [] r)
      (fun _ _ hq => ⟨hq.1.of_append, hq.2.of_append⟩)
      (fun hp hs ha hq => ⟨hp.1.act hs ha hq.1, hp.2.act hp.1 hs ha hq.1 hq.2⟩)
      hs hc ⟨ho, h⟩ ⟨hf, hm⟩).2
  | opened i k kind hx hs hc hz hk hs' =>
    rw [hs']
    exact alert_store hs (fun j m u _ => h j m u) (awake_of_bare rfl)
  | entered settings =>
    intro j m u hu
    rw [socket?_enter] at hu
    refine (h j m u hu).frame (fun _ _ => ⟨rfl, rfl⟩) fun _ _ _ _ hn => hn.of_queue ?_
    intro note hnote
    have hj : j ≠ r.sessions.length := by
      rintro rfl
      simp [socket?] at hu
    unfold World.mailbox at hnote ⊢
    unfold enter
    rwa [Table.get?_insert, if_neg hj]
  | unpolled hmoved =>
    intro j m u hu
    refine (h j m u hu).frame (fun d _ => ⟨by rw [hmoved.reactor], ?_⟩)
      fun _ _ _ _ hn => hn.of_mailboxes hmoved.mailboxes
    rw [hmoved.history]
    rfl
  | @polled _ w₁ _ hmoved hd =>
    have hmatched : Matched r.Holds w₁.reactor.table w₁.history := by
      rw [hmoved.reactor, hmoved.history]
      exact ho.matched.waited _ _
    intro j m u hu
    exact (h.waited ho hmoved j m u hu).delivered hd hmatched hm
  | elapsed system now => exact h

theorem alert_start (system : κ) (maxEvents : Nat) : Alert [] (start system maxEvents) := by
  intro i k v hv
  cases hv

theorem alert_run [OperatingSystem κ] {system : κ} {maxEvents : Nat} {xs : List (Input κ)}
    (hf : OpensFresh ((start system maxEvents).run xs).world.history)
    (hm : ModifiesListed ((start system maxEvents).run xs).world.history) :
    Alert [] ((start system maxEvents).run xs) :=
  (run_preserves (q := fun h => OpensFresh h ∧ ModifiesListed h)
    (p := fun r => r.Owned ∧ Alert [] r)
    (fun _ _ hq => ⟨hq.1.of_append, hq.2.of_append⟩)
    (fun _ _ _ _ _ _ hp ht hq => ⟨hp.1.turn ht hq.1, hp.2.turn hp.1 ht hq.1 hq.2⟩)
    (allOpen_start system maxEvents) ⟨owned_start system maxEvents, alert_start system maxEvents⟩
    ⟨hf, hm⟩).2

end

/-- How the relay attends to a socket with a descriptor: its registration, and what the system
watches. -/
structure Attended (r : Relay κ) (s : Session) (k : SocketId) (v : VirtualSocket) (d : Descriptor)
    (registration : Registration) (entry : Watch) : Prop where
  row : r.world.reactor.table.get? d = some registration
  current : v.token = some registration.token
  asked : registration.interest = v.interest
  always : v.interest.read ∧ v.interest.hangup ∧ v.interest.error
  write : v.interest.write ↔ v.isConnecting ∨ v.outbound ≠ []
  watched : watch? d r.world.history = some entry
  bits : entry.bits = v.interest.toEpoll
  token : entry.token = registration.token
  heard : entry.armed ∨ ∃ note ∈ (r.world.mailbox s.mailbox).queue,
    note.socket = k ∧ note.token = registration.token

/-- In every state that a relay reaches, the system watches each socket for what the socket waits
for, and a watch that is not armed has a note waiting for it. -/
theorem sockets_attended [OperatingSystem κ] {system : κ} {maxEvents : Nat} {xs : List (Input κ)}
    (hf : OpensFresh ((start system maxEvents).run xs).world.history)
    (hm : ModifiesListed ((start system maxEvents).run xs).world.history)
    {i : Nat} {s : Session} {k : SocketId} {v : VirtualSocket} {d : Descriptor}
    (hs : ((start system maxEvents).run xs).sessions[i]? = some s)
    (hv : s.sockets.get? k = some v) (hd : v.descriptor = some d) :
    ∃ registration entry,
      Attended ((start system maxEvents).run xs) s k v d registration entry := by
  have howned := owned_run hf
  have hik := (socket?_of_session hs k).trans hv
  obtain ⟨token, interest, armed, ht, htd, hr, hopen, hw⟩ := howned.row hik hd
  obtain ⟨hint, harm⟩ := alert_run hf hm i k v hik d _ _ hd hr hw
  obtain rfl : interest = v.interest := hint
  refine ⟨⟨token, k, v.interest, i⟩, ⟨v.interest.toEpoll, token, armed⟩, ?_⟩
  refine ⟨hr, ht, rfl, ⟨rfl, rfl, rfl⟩, ?_, hw, rfl, rfl, harm.imp_right ?_⟩
  · simp [VirtualSocket.interest]
  · intro hnoted
    obtain ⟨note, hk, hnt, hn | hn⟩ := hnoted
    · rw [(howned.formed i s hs).mailbox]
      exact ⟨note, hn, hk, hnt⟩
    · cases hn

theorem sockets_attended_visit : ∃ s v d registration entry,
    ((start Loopback.listening 8).run Loopback.visit).sessions[0]? = some s ∧
      s.sockets.get? 1 = some v ∧ v.descriptor = some d ∧
      Attended ((start Loopback.listening 8).run Loopback.visit) s 1 v d registration entry := by
  obtain ⟨v, hv, hd⟩ : ∃ v,
      ((start Loopback.listening 8).run Loopback.visit).socket? 0 1 = some v ∧
        v.descriptor = some 3 :=
    Option.bind_eq_some_iff.1 (by decide +kernel)
  obtain ⟨s, hs, hk⟩ := socket?_eq_some.1 hv
  have hattended := sockets_attended Loopback.opensFresh_visit
  obtain ⟨registration, entry, h⟩ := hattended Loopback.modifiesListed_visit hs hk hd
  exact ⟨s, v, 3, registration, entry, hs, hk, hd, h⟩

end SocketRelay.Relay
