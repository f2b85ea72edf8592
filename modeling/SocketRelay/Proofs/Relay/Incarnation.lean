import SocketRelay.Proofs.Relay.Ownership
import SocketRelay.Proofs.Socket.Dealings

/-!
# The life of one socket

A client may use the number of a socket again, and the system the number of a descriptor. What is
said here about a socket is said about one incarnation of it: from the request that added it until
it leaves the table of its session.

A `Biography` is what one knows of a socket from the calls so far and from all its traffic, while it
is open and after it has ended. It has to survive the deeds of the socket; what others do is only
seen in the calls, and those are not on the socket's descriptor. `Biography.run_fate` follows the
socket through any run.
-/
namespace SocketRelay.Relay
open History (OpensFresh ModifiesListed openDescriptors openings dealings Past Spared)
open VirtualSocket (Deed Conduct)

/-- In these histories the system opens fresh descriptors. -/
def Fresh (q : History → Prop) : Prop := ∀ h, q h → OpensFresh h

/-- In these histories the system opens fresh descriptors and modifies what it lists. -/
def Trusted (q : History → Prop) : Prop := ∀ h, q h → OpensFresh h ∧ ModifiesListed h

theorem Trusted.fresh {q : History → Prop} (ht : Trusted q) : Fresh q := fun h hq => (ht h hq).1

/-- Calls do not matter. -/
structure Aloof (living : History → VirtualSocket → Traffic → Prop)
    (past : History → Traffic → Prop) :
    Prop where
  living : ∀ {h v t}, living h v t → ∀ h', living h' v t
  past : ∀ {h t}, past h t → ∀ h', past h' t

/-- Accepted bytes do not matter. -/
structure Unpromised (living : History → VirtualSocket → Traffic → Prop)
    (past : History → Traffic → Prop) : Prop where
  living : ∀ {h v t data}, living h v (t ++ { accepted := data }) → living h v t
  past : ∀ {h t data}, past h (t ++ { accepted := data }) → past h t

/-- What is known of a socket while it is open, and after it has ended. -/
structure Biography (ctx : SocketContext) (settled : Prop) (q : History → Prop)
    (living : History → VirtualSocket → Traffic → Prop) (past : History → Traffic → Prop) :
    Prop where
  suffix : ∀ calls h, q (calls ++ h) → q h
  deed : ∀ {v v' r r' calls t t' h}, v.Sound → v.closed = false → living h v t →
    Deed ctx settled False v r calls t' v' r' → q (calls ++ h) →
      (v'.closed = false → living (calls ++ h) v' (t ++ t')) ∧
        (v'.closed → past (calls ++ h) (t ++ t'))
  others : ∀ {v t h calls}, living h v t →
    (∀ d, v.descriptor = some d → Spared d calls h) → living (calls ++ h) v t
  later : ∀ {t h calls}, past h t →
    (∀ d n, Past d n h → dealings d n (calls ++ h) = dealings d n h) → past (calls ++ h) t
  fresh : Fresh q ∨ Aloof living past
  arming : Trusted q ∨ Unpromised living past

/-- What a biography rests on: well-formed sessions, sound sockets, and the accounts of all that is
held if descriptors are fresh. -/
structure Basis {κ : Type} (q : History → Prop) (r : Relay κ) : Prop where
  formed : r.AllFormed
  sound : r.AllSound
  owned : Fresh q → r.Owned

variable {κ : Type} {ctx : SocketContext} {settled : Prop} {q : History → Prop}
variable {living : History → VirtualSocket → Traffic → Prop} {past : History → Traffic → Prop}
variable {r r' : Relay κ} {i j : Nat} {s s' : Session} {k m : SocketId} {v v' u : VirtualSocket}
variable {w' : World κ} {t t' : Traffic} {calls : List Exchange} {rx rx' : Reactor}

theorem Owned.basis (h : r.Owned) : Basis q r := ⟨h.formed, h.sound, fun _ => h⟩

theorem Basis.deed {steady : Prop} (h : Basis q r) (hs : r.sessions[j]? = some s)
    (hu : s.sockets.get? m = some u)
    (hd : Deed s.context settled steady u r.world.reactor calls t v' rx)
    (hm : r.world.Moved calls rx w') (hq : q w'.history) : Basis q (r.put j (s.store m v') w') :=
  ⟨h.formed.put hs ((h.formed j s hs).store hu), h.sound.deed hs hu hd,
    fun hf => (h.owned hf).deed hs hu hd hm (hf _ hq)⟩

theorem Basis.act (h : Basis q r) (hs : r.sessions[j]? = some s) {l : Log}
    (ha : Session.Act settled s r.world l s' w') (hq : q w'.history) : Basis q (r.put j s' w') :=
  ⟨h.formed.put hs ((h.formed j s hs).act ha), h.sound.act hs ha,
    fun hf => (h.owned hf).act hs ha (hf _ hq)⟩

theorem Basis.turn [OperatingSystem κ] (h : Basis q r) {x : Input κ} {l : Log}
    {frames : List Outgoing} (ht : Turn settled r x l frames r') (hq : q r'.world.history) :
    Basis q r' :=
  ⟨h.formed.turn ht, h.sound.turn ht, fun hf => (h.owned hf).turn ht (hf _ hq)⟩

theorem Basis.run [OperatingSystem κ] (h : Basis q r) (ho : r.AllOpen)
    (hsuffix : ∀ calls h, q (calls ++ h) → q h) {xs : List (Input κ)}
    (hq : q (r.run xs).world.history) : Basis q (r.run xs) :=
  run_preserves hsuffix (fun _ _ _ _ _ _ h ht hq => h.turn ht hq) ho h hq

theorem Owned.spared {steady : Prop} (h : r.Owned) (hs : r.sessions[j]? = some s)
    (hu : s.sockets.get? m = some u) (hd : Deed s.context settled steady u rx calls t v' rx')
    (hf : OpensFresh (calls ++ r.world.history)) (hne : ¬ (j = i ∧ m = k))
    (hv : r.socket? i k = some v) (d : Descriptor) (hvd : v.descriptor = some d) :
    Spared d calls r.world.history := by
  obtain ⟨-, -, -, -, -, -, hopen, -⟩ := h.row hv hvd
  have hjm : r.socket? j m = some u := (socket?_of_session hs m).trans hu
  exact hd.spared (fun hud => hne (h.alone hjm hud hv hvd)) hopen hf

theorem Owned.spared_past {steady : Prop} (h : r.Owned) (hs : r.sessions[j]? = some s)
    (hu : s.sockets.get? m = some u)
    (hd : Deed s.context settled steady u rx calls t v' rx') (d : Descriptor) (n : Nat)
    (hp : Past d n r.world.history) :
    dealings d n (calls ++ r.world.history) = dealings d n r.world.history := by
  refine hd.dealings_past (fun e he => ?_) hp
  obtain ⟨-, -, -, -, -, -, hopen, -⟩ := h.row ((socket?_of_session hs m).trans hu) he
  exact hopen

theorem Owned.conduct_past {steady : Prop} (h : r.Owned) (hs : r.sessions[j]? = some s)
    (hu : s.sockets.get? m = some u) (hc : Conduct s.context settled steady u r.world t v' w')
    (hf : OpensFresh w'.history) {d : Descriptor} {n : Nat} (hp : Past d n r.world.history) :
    Past d n w'.history ∧ dealings d n w'.history = dealings d n r.world.history := by
  refine (conduct_preserves (q := OpensFresh) (p := fun r' _ => r'.Owned ∧
    Past d n r'.world.history ∧ dealings d n r'.world.history = dealings d n r.world.history)
    (fun _ _ => History.Throughout.of_append) ?_ hs hu hc ⟨h, hp, rfl⟩ hf).2
  intro r₁ t s v calls t' v' rx w' hinv hs hv hd hm hf
  obtain ⟨ho, hp, heq⟩ := hinv
  refine ⟨ho.deed hs hv hd hm hf, ?_⟩
  change Past d n w'.history ∧ dealings d n w'.history = _
  rw [hm.history, ← heq]
  exact ⟨hp.append calls, ho.spared_past hs hv hd d n hp⟩

theorem Owned.act_past (h : r.Owned) (hs : r.sessions[j]? = some s) {l : Log}
    (ha : Session.Act settled s r.world l s' w') (hf : OpensFresh w'.history) {d : Descriptor}
    {n : Nat} (hp : Past d n r.world.history) :
    Past d n w'.history ∧ dealings d n w'.history = dealings d n r.world.history := by
  cases ha with
  | acted m hu hc => exact h.conduct_past hs hu hc hf hp
  | unarmed m e hu hd hc hfail hc' => exact h.conduct_past hs hu hc' hf hp
  | @handled u t v' _ note queue hq hu hc hr =>
    exact (h.withQueue s.mailbox queue).conduct_past hs (Session.handler?_eq_some hu).2.1 hc hf hp
  | dropped | forgot | closed => exact ⟨hp, rfl⟩

/-- The socket is open with this traffic behind it, or it has ended. -/
def Fate (ctx : SocketContext) (living : History → VirtualSocket → Traffic → Prop)
    (past : History → Traffic → Prop) (i : Nat) (k : SocketId) (r : Relay κ) (t : Traffic) : Prop :=
  (∃ s, r.sessions[i]? = some s ∧ s.context = ctx) ∧
    ((∃ v, r.socket? i k = some v ∧ v.closed = false ∧ living r.world.history v t) ∨
      (∀ v, r.socket? i k = some v → v.closed) ∧ past r.world.history t)

/-- What a log of the session at position `j` holds of the socket. -/
def share (l : Log) (j i : Nat) (k : SocketId) : Traffic := if j = i then l.of k else {}

theorem share_append (l l' : Log) (j i : Nat) (k : SocketId) :
    share (l ++ l') j i k = share l j i k ++ share l' j i k := by
  unfold share
  split
  · exact Log.of_append l l' k
  · rfl

theorem share_nil (j i : Nat) (k : SocketId) : share [] j i k = {} := by
  unfold share
  split <;> rfl

theorem share_single (m : SocketId) (t : Traffic) (j i : Nat) (k : SocketId) :
    share [(m, t)] j i k = if j = i ∧ m = k then t else {} := by
  unfold share
  rw [Log.of_single]
  by_cases hj : j = i <;> simp [hj]

theorem context_put (hs : r.sessions[j]? = some s)
    (h : ∃ s, r.sessions[i]? = some s ∧ s.context = ctx) (hfix : s'.context = s.context) :
    ∃ s, (r.put j s' w').sessions[i]? = some s ∧ s.context = ctx := by
  obtain ⟨s₀, hs₀, hctx⟩ := h
  by_cases hij : i = j
  · rw [hij] at hs₀
    cases hs.symm.trans hs₀
    exact ⟨s', by rw [sessions_put hs, if_pos hij], hfix.trans hctx⟩
  · exact ⟨s₀, by rw [sessions_put hs, if_neg hij, hs₀], hctx⟩

theorem Fate.frame (h : Fate ctx living past i k r t) (hs : r.sessions[j]? = some s)
    (hfix : s'.context = s.context) (hw : w'.history = r.world.history)
    (hk : ∀ v, (r.put j s' w').socket? i k = some v → r.socket? i k = some v)
    (hopen : ∀ v, r.socket? i k = some v → v.closed = false →
      (r.put j s' w').socket? i k = some v) :
    Fate ctx living past i k (r.put j s' w') t := by
  obtain ⟨hctx, h⟩ := h
  refine ⟨context_put hs hctx hfix, ?_⟩
  change (∃ v, _ ∧ _ ∧ living w'.history v t) ∨ _ ∧ past w'.history t
  rw [hw]
  rcases h with ⟨v, hv, hc, hl⟩ | ⟨hc, hp⟩
  · exact .inl ⟨v, hopen v hv hc, hc, hl⟩
  · exact .inr ⟨fun v hv => hc v (hk v hv), hp⟩

theorem Biography.deed_fate (b : Biography ctx settled q living past) (ho : Basis q r)
    (h : Fate ctx living past i k r t) (hs : r.sessions[j]? = some s)
    (hu : s.sockets.get? m = some u)
    (hd : Deed s.context settled False u r.world.reactor calls t' v' rx)
    (hm : r.world.Moved calls rx w') (hq : q w'.history) :
    Fate ctx living past i k (r.put j (s.store m v') w')
      (t ++ if j = i ∧ m = k then t' else {}) := by
  obtain ⟨hctx, h⟩ := h
  refine ⟨context_put hs hctx rfl, ?_⟩
  have hjm : r.socket? j m = some u := (socket?_of_session hs m).trans hu
  change (∃ v, _ ∧ _ ∧ living w'.history v _) ∨ _ ∧ past w'.history _
  rw [hm.history] at hq ⊢
  by_cases hsame : j = i ∧ m = k
  · obtain ⟨rfl, rfl⟩ := hsame
    rw [if_pos ⟨rfl, rfl⟩]
    obtain ⟨s₀, hs₀, rfl⟩ := hctx
    cases hs.symm.trans hs₀
    have hstored : (r.put j (s.store m v') w').socket? j m = some v' := by
      rw [socket?_store hs, if_pos ⟨rfl, rfl⟩]
    rcases h with ⟨v, hv, hc, hl⟩ | ⟨hc, -⟩
    · cases hjm.symm.trans hv
      obtain ⟨hliving, hpast⟩ := b.deed (ho.sound j m u hjm).1 hc hl hd hq
      cases hend : v'.closed with
      | false => exact .inl ⟨v', hstored, hend, hliving hend⟩
      | true =>
        refine .inr ⟨fun v hv => ?_, hpast hend⟩
        cases hstored.symm.trans hv
        exact hend
    · have hclosed := hc u hjm
      rw [hd.open] at hclosed
      cases hclosed
  · rw [if_neg hsame, Traffic.append_nothing]
    have hsocket : (r.put j (s.store m v') w').socket? i k = r.socket? i k := by
      rw [socket?_store hs, if_neg fun h => hsame ⟨h.1.symm, h.2.symm⟩]
    rw [hsocket]
    rcases h with ⟨v, hv, hc, hl⟩ | ⟨hc, hp⟩
    · refine .inl ⟨v, hv, hc, ?_⟩
      rcases b.fresh with hf | ha
      · exact b.others hl ((ho.owned hf).spared hs hu hd (hf _ hq) hsame hv)
      · exact ha.living hl _
    · refine .inr ⟨hc, ?_⟩
      rcases b.fresh with hf | ha
      · exact b.later hp ((ho.owned hf).spared_past hs hu hd)
      · exact ha.past hp _

theorem Biography.conduct_fate (b : Biography ctx settled q living past) (ho : Basis q r)
    (h : Fate ctx living past i k r t) (hs : r.sessions[j]? = some s)
    (hu : s.sockets.get? m = some u) (hc : Conduct s.context settled False u r.world t' v' w')
    (hq : q w'.history) :
    Fate ctx living past i k (r.put j (s.store m v') w')
      (t ++ if j = i ∧ m = k then t' else {}) := by
  refine (conduct_preserves (q := q)
    (p := fun r t' => Basis q r ∧
      Fate ctx living past i k r (t ++ if j = i ∧ m = k then t' else {}))
    b.suffix ?_ hs hu hc ⟨ho, ?_⟩ hq).2
  · intro r t₁ s v calls t₂ v' rx w' hinv hs hv hd hm hq
    obtain ⟨ho, h⟩ := hinv
    have hfate := b.deed_fate ho h hs hv hd hm hq
    refine ⟨ho.deed hs hv hd hm hq, ?_⟩
    by_cases hsame : j = i ∧ m = k
    · simpa [hsame, Traffic.append_assoc] using hfate
    · simpa [hsame] using hfate
  · simpa using h

theorem Unpromised.forget (b : Unpromised living past) {data : Bytes}
    (h : Fate ctx living past i k r (t ++ { accepted := data })) :
    Fate ctx living past i k r t := by
  obtain ⟨hctx, h⟩ := h
  refine ⟨hctx, ?_⟩
  rcases h with ⟨v, hv, hc, hl⟩ | ⟨hc, hp⟩
  · exact .inl ⟨v, hv, hc, b.living hl⟩
  · exact .inr ⟨hc, b.past hp⟩

theorem Biography.act_fate (b : Biography ctx settled q living past) (ho : Basis q r)
    (h : Fate ctx living past i k r t) (hs : r.sessions[j]? = some s) {l : Log}
    (ha : Session.Act settled s r.world l s' w') (hq : q w'.history) :
    Fate ctx living past i k (r.put j s' w') (t ++ share l j i k) := by
  cases ha with
  | acted m hu hc =>
    rw [share_single]
    exact b.conduct_fate ho h hs hu (hc.mono (fun _ => trivial) False.elim) hq
  | @unarmed u t' data v' w₁ _ m d hu hd hc hfail hc' =>
    rw [share_single, ite_self, Traffic.append_nothing]
    rcases b.arming with htrust | hunpromised
    · obtain ⟨hfresh, hlisted⟩ := htrust _ hq
      exact ((ho.owned htrust.fresh).arms hs hu hc hd hfresh hlisted hfail).elim
    · have hfate := b.conduct_fate ho h hs hu (hc'.mono (fun _ => trivial) id) hq
      by_cases hsame : j = i ∧ m = k
      · rw [if_pos hsame] at hfate
        exact hunpromised.forget hfate
      · rwa [if_neg hsame, Traffic.append_nothing] at hfate
  | dropped note queue =>
    rw [share_nil, Traffic.append_nothing]
    refine h.frame hs rfl rfl (fun v hv => ?_) fun v hv _ => ?_
    · rwa [put_same hs] at hv
    · rwa [put_same hs]
  | @handled u t' v' _ note queue hqueue hu hc hr =>
    rw [share_single]
    have ho' : Basis q { r with world := r.world.withQueue s.mailbox queue } :=
      ⟨ho.formed, ho.sound, fun hf => (ho.owned hf).withQueue s.mailbox queue⟩
    have h' : Fate ctx living past i k { r with world := r.world.withQueue s.mailbox queue } t := h
    have hfate := b.conduct_fate ho' h' hs (Session.handler?_eq_some hu).2.1 hc hq
    exact hfate
  | forgot p hp =>
    rw [share_nil, Traffic.append_nothing]
    refine h.frame hs rfl rfl (fun v hv => ((socket?_forgot hs p i k v).1 hv).1) fun v hv hc => ?_
    refine (socket?_forgot hs p i k v).2 ⟨hv, fun hij => Decidable.byContradiction fun hpk => ?_⟩
    rw [hij, socket?_of_session hs] at hv
    rw [hp k v hv (Bool.eq_false_iff.2 hpk)] at hc
    cases hc
  | closed hc he =>
    rw [share_nil, Traffic.append_nothing]
    refine h.frame hs rfl rfl (fun v hv => ?_) fun v hv _ => ?_
    · rwa [socket?_closed hs] at hv
    · rwa [socket?_closed hs]

theorem Biography.course_fate (b : Biography ctx settled q living past) (ho : Basis q r)
    (h : Fate ctx living past i k r t) (hs : r.sessions[j]? = some s) {l : Log}
    (hc : Session.Course settled s r.world l s' w') (hq : q w'.history) :
    Fate ctx living past i k (r.put j s' w') (t ++ share l j i k) := by
  refine (course_preserves (q := q)
    (p := fun r l => Basis q r ∧ Fate ctx living past i k r (t ++ share l j i k))
    b.suffix ?_ hs hc ⟨ho, ?_⟩ hq).2
  · intro r l s l' s' w' hinv hs ha hq
    obtain ⟨ho, h⟩ := hinv
    have hfate := b.act_fate ho h hs ha hq
    rw [Traffic.append_assoc, ← share_append] at hfate
    exact ⟨ho.act hs ha hq, hfate⟩
  · rwa [share_nil, Traffic.append_nothing]

theorem polling_undealt {x : Exchange} (h : Reactor.Polling x) :
    x.opened? = none ∧ x.dealing? = none := by
  cases h <;> exact ⟨rfl, rfl⟩

/-- Calls of the reactor are nothing to a socket. -/
theorem Biography.polled_fate (b : Biography ctx settled q living past)
    (h : Fate ctx living past i k r t) (hc : w'.history = calls ++ r.world.history)
    (hnone : ∀ x ∈ calls, x.opened? = none ∧ x.dealing? = none) :
    Fate ctx living past i k { r with world := w' } t := by
  obtain ⟨hctx, h⟩ := h
  refine ⟨hctx, ?_⟩
  change (∃ v, _ ∧ _ ∧ living w'.history v t) ∨ _ ∧ past w'.history t
  rw [hc]
  rcases h with ⟨v, hv, hopen, hl⟩ | ⟨hclosed, hp⟩
  · refine .inl ⟨v, hv, hopen, b.others hl fun d _ => ⟨?_, fun n => ?_⟩⟩
    · exact History.openings_append (fun x hx => by rw [(hnone x hx).1]; exact nofun) _
    · exact History.dealings_append (fun x hx => by rw [(hnone x hx).2]; exact nofun) n _
  · refine .inr ⟨hclosed, b.later hp fun d n _ => ?_⟩
    exact History.dealings_append (fun x hx => by rw [(hnone x hx).2]; exact nofun) n _

/-- What a turn's log holds of a socket. -/
def Input.share (x : Input κ) (l : Log) (i : Nat) (k : SocketId) : Traffic :=
  match x.session? with
  | some j => Relay.share l j i k
  | none => {}

theorem Input.share_nil (x : Input κ) (i : Nat) (k : SocketId) : x.share [] i k = {} := by
  unfold share
  split
  · exact Relay.share_nil _ i k
  · rfl

theorem Input.share_of_session {x : Input κ} (hx : x.session? = some j) (l : Log) (i : Nat)
    (k : SocketId) : x.share l i k = Relay.share l j i k := by
  unfold share
  rw [hx]

variable [OperatingSystem κ]

theorem Biography.turn_fate (b : Biography ctx settled q living past) (ho : Basis q r)
    (h : Fate ctx living past i k r t) (hk : r.socket? i k ≠ none) {x : Input κ} {l : Log}
    {frames : List Outgoing} (ht : Turn settled r x l frames r') (hq : q r'.world.history) :
    Fate ctx living past i k r' (t ++ x.share l i k) := by
  cases ht with
  | absent j hx hn =>
    rw [Input.share_nil, Traffic.append_nothing]
    exact h
  | served j hx hs hc =>
    rw [Input.share_of_session hx]
    exact b.course_fate ho h hs hc hq
  | @opened _ s _ j m kind hx hs hc hz hm hs' =>
    rw [Input.share_nil, Traffic.append_nothing, hs']
    have hne : ¬ (i = j ∧ k = m) := by
      intro hsame
      obtain ⟨rfl, rfl⟩ := hsame
      exact hk ((socket?_of_session hs k).trans hm)
    have hsocket : (r.put j (s.store m { id := m, kind }) r.world).socket? i k = r.socket? i k := by
      rw [socket?_store hs, if_neg hne]
    refine h.frame hs rfl rfl (fun v hv => ?_) fun v hv _ => ?_
    · rwa [hsocket] at hv
    · rwa [hsocket]
  | entered settings =>
    rw [Input.share_nil, Traffic.append_nothing]
    obtain ⟨⟨s, hs, hctx⟩, h⟩ := h
    refine ⟨⟨s, ?_, hctx⟩, ?_⟩
    · have hi : i ≠ r.sessions.length := Nat.ne_of_lt (List.getElem?_eq_some_iff.1 hs).1
      rw [sessions_enter, if_neg hi, hs]
    · rw [socket?_enter]
      exact h
  | unpolled hm =>
    rw [Input.share_nil, Traffic.append_nothing]
    exact b.polled_fate h hm.history (List.forall_mem_singleton.2 ⟨rfl, rfl⟩)
  | polled hm hd =>
    rw [Input.share_nil, Traffic.append_nothing]
    obtain ⟨calls, hc, hpolling⟩ := hd.round hm
    exact b.polled_fate h hc fun x hx => polling_undealt (hpolling x hx)
  | elapsed system now =>
    rw [Input.share_nil, Traffic.append_nothing]
    exact h

/-- No turn has anything to do with a socket that is gone. -/
theorem Owned.turn_past (h : r.Owned) {x : Input κ} {l : Log} {frames : List Outgoing}
    (ht : Turn settled r x l frames r') (hf : OpensFresh r'.world.history)
    (d : Descriptor) (n : Nat)
    (hp : Past d n r.world.history) :
    Past d n r'.world.history ∧ dealings d n r'.world.history = dealings d n r.world.history := by
  have hnone : ∀ {calls : List Exchange} {w' : World κ}, w'.history = calls ++ r.world.history →
      (∀ x ∈ calls, x.dealing? = none) →
      Past d n w'.history ∧ dealings d n w'.history = dealings d n r.world.history := by
    intro calls w' hc hnone
    rw [hc]
    exact ⟨hp.append _, History.dealings_append (fun x hx => by rw [hnone x hx]; exact nofun) n _⟩
  cases ht with
  | served j hx hs hc =>
    have hcourse := course_preserves (q := OpensFresh) (p := fun r' _ => r'.Owned ∧
      Past d n r'.world.history ∧ dealings d n r'.world.history = dealings d n r.world.history)
      (fun _ _ => History.Throughout.of_append) ?_ hs hc ⟨h, hp, rfl⟩ hf
    · exact hcourse.2
    intro r₁ l s l' s' w' hinv hs ha hf
    obtain ⟨ho, hp, heq⟩ := hinv
    refine ⟨ho.act hs ha hf, ?_⟩
    rw [← heq]
    exact ho.act_past hs ha hf hp
  | unpolled hm => exact hnone hm.history (List.forall_mem_singleton.2 rfl)
  | polled hm hd =>
    obtain ⟨calls, hc, hpolling⟩ := hd.round hm
    exact hnone hc fun x hx => (polling_undealt (hpolling x hx)).2
  | _ => exact ⟨hp, rfl⟩

/-- The socket is in the table of its session, now and after each input. -/
def keeps (r : Relay κ) (i : Nat) (k : SocketId) : List (Input κ) → Bool
  | [] => (r.socket? i k).isSome
  | x :: xs => (r.socket? i k).isSome && (r.step x).1.keeps i k xs

theorem keeps_start {xs : List (Input κ)} (h : r.keeps i k xs) : r.socket? i k ≠ none := by
  refine Option.isSome_iff_ne_none.1 ?_
  cases xs with
  | nil => exact h
  | cons x xs => exact (Bool.and_eq_true _ _ ▸ h).1

theorem keeps_end {xs : List (Input κ)} (h : r.keeps i k xs) : (r.run xs).socket? i k ≠ none := by
  induction xs generalizing r with
  | nil => exact keeps_start h
  | cons x xs ih => exact ih (Bool.and_eq_true _ _ ▸ h).2

/-- The bytes that inputs add to the stream of a socket. -/
def acceptedIn (r : Relay κ) (i : Nat) (k : SocketId) : List (Input κ) → Bytes
  | [] => []
  | x :: xs => r.accepted i k x ++ (r.step x).1.acceptedIn i k xs

/-- Whenever a note of a pending connect is handled, it tells of room to write or of an error. -/
def Decided (r : Relay κ) : List (Input κ) → Prop
  | [] => True
  | x :: xs => (∀ p ∈ r.handled x,
      p.1.connectStarted = none ∨ p.2.events.write ∨ p.2.events.error) ∧ (r.step x).1.Decided xs

instance Decided.decidable : (r : Relay κ) → (xs : List (Input κ)) → Decidable (r.Decided xs)
  | _, [] => isTrue trivial
  | r, x :: xs =>
    have := decidable (r.step x).1 xs
    inferInstanceAs (Decidable (_ ∧ _))

theorem decided_append {xs ys : List (Input κ)} (h : r.Decided (xs ++ ys)) :
    r.Decided xs ∧ (r.run xs).Decided ys := by
  induction xs generalizing r with
  | nil => exact ⟨trivial, h⟩
  | cons x xs ih =>
    obtain ⟨hxs, hys⟩ := ih h.2
    exact ⟨⟨h.1, hxs⟩, hys⟩

/-- A request that adds a socket, and inputs through which the socket stays in the table. -/
structure Incarnation (r : Relay κ) (i : Nat) (k : SocketId) (kind : SocketKind) (x : Input κ)
    (xs : List (Input κ)) : Prop where
  asked : x.Opens i k kind
  fresh : r.socket? i k = none
  kept : (r.step x).1.keeps i k xs

/-- All traffic of a socket in a run. -/
inductive Chronicle (settled : Prop) (i : Nat) (k : SocketId) :
    Relay κ → List (Input κ) → Traffic → Prop
  | done (r : Relay κ) : Chronicle settled i k r [] {}
  | turn {r : Relay κ} {x l xs t} : Turn settled r x l (r.step x).2 (r.step x).1 →
      Chronicle settled i k (r.step x).1 xs t →
      Chronicle settled i k r (x :: xs) (x.share l i k ++ t)

theorem chronicle_exists (ho : r.AllOpen) {xs : List (Input κ)} (hs : settled → r.Decided xs)
    (i : Nat) (k : SocketId) : ∃ t, Chronicle settled i k r xs t := by
  induction xs generalizing r with
  | nil => exact ⟨{}, .done r⟩
  | cons x xs ih =>
    obtain ⟨l, hturn⟩ := step_turn settled ho x fun h => (hs h).1
    obtain ⟨t, ht⟩ := ih (hturn.allOpen ho) fun h => (hs h).2
    exact ⟨_, .turn hturn ht⟩

omit [OperatingSystem κ] in
theorem Input.Opens.unique {x : Input κ} {kind kind' : SocketKind} (h : x.Opens i k kind)
    (h' : x.Opens j m kind') : i = j ∧ k = m ∧ kind = kind' := by
  obtain ⟨bytes, code, rfl, hdecode, hkind⟩ := h
  obtain ⟨bytes', code', hx, hdecode', hkind'⟩ := h'
  cases hx
  cases hdecode.symm.trans hdecode'
  exact ⟨rfl, rfl, Option.some.inj (hkind.symm.trans hkind')⟩

/-- A new incarnation begins with a socket that has done nothing yet. -/
theorem Incarnation.begins {kind : SocketKind} {x : Input κ} {xs : List (Input κ)}
    (h : Incarnation r i k kind x xs) (ho : r.AllOpen) :
    (r.step x).1.socket? i k = some { id := k, kind } ∧ (r.step x).2 = [] := by
  obtain ⟨l, hturn⟩ := step_turn False ho x False.elim
  have hk := keeps_start h.kept
  obtain ⟨bytes, code, hx, -⟩ := h.asked
  generalize hafter : (r.step x).1 = r' at hturn hk ⊢
  generalize (r.step x).2 = frames at hturn ⊢
  cases hturn with
  | absent => exact (hk h.fresh).elim
  | served j hj hs hc =>
    rw [hx] at hj
    cases hj
    rw [socket?_put hs, if_pos rfl] at hk
    exact (hk (hc.absent ((socket?_of_session hs k).symm.trans h.fresh)).1).elim
  | opened j m kind' hasked hs hc hz hm hs' =>
    obtain ⟨rfl, rfl, rfl⟩ := h.asked.unique hasked
    rw [hs', socket?_store hs, if_pos ⟨rfl, rfl⟩]
    exact ⟨rfl, rfl⟩
  | entered | unpolled | polled | elapsed => cases hx

theorem accepted_of_opens {x : Input κ} {kind : SocketKind} (h : x.Opens j m kind) (r : Relay κ)
    (i : Nat) (k : SocketId) : r.accepted i k x = [] := by
  obtain ⟨bytes, code, rfl, hdecode, -⟩ := h
  unfold accepted
  dsimp only
  split
  · split
    · unfold Session.acceptedFrom
      split
      · rfl
      · rw [hdecode]
        rfl
    · rfl
  · rfl

theorem Turn.accepted {x : Input κ} {l : Log} {frames : List Outgoing}
    (h : Turn settled r x l frames r') (hk : r.socket? i k ≠ none) :
    (x.share l i k).accepted = r.accepted i k x := by
  cases h with
  | absent j hx hn =>
    rw [Input.share_nil]
    cases x with
    | frame i' bytes =>
      cases hx
      unfold Relay.accepted
      dsimp only
      split
      · rename_i hj
        rw [← hj, hn]
      · rfl
    | _ => rfl
  | served j hx hs hc hopen hacc =>
    rw [Input.share_of_session hx]
    unfold Relay.share
    split
    · rename_i hj
      subst hj
      exact hacc k fun hn => hk ((socket?_of_session hs k).trans hn)
    · rename_i hj
      cases x with
      | frame i' bytes =>
        cases hx
        exact (if_neg hj).symm
      | _ => rfl
  | opened j m kind hx =>
    rw [Input.share_nil, accepted_of_opens hx]
  | entered | unpolled | polled | elapsed => rw [Input.share_nil]; rfl

theorem Chronicle.accepted {xs : List (Input κ)} (h : Chronicle settled i k r xs t)
    (hk : r.keeps i k xs) : t.accepted = r.acceptedIn i k xs := by
  induction h with
  | done r => rfl
  | turn hturn _ ih =>
    rw [Traffic.accepted_append, hturn.accepted (keeps_start hk), ih (Bool.and_eq_true _ _ ▸ hk).2]
    rfl

/-- A biography goes on through a run, as long as the socket is there. -/
theorem Biography.run_fate (b : Biography ctx settled q living past) (hopen : r.AllOpen)
    (ho : Basis q r) (h : Fate ctx living past i k r t) {xs : List (Input κ)}
    (hc : Chronicle settled i k r xs t') (hk : r.keeps i k xs)
    (hq : q (r.run xs).world.history) : Fate ctx living past i k (r.run xs) (t ++ t') := by
  induction hc generalizing t with
  | done r => rwa [Traffic.append_nothing]
  | @turn r x l xs t' hturn _ ih =>
    obtain ⟨calls, hcalls⟩ := history_run (hturn.allOpen hopen) xs
    have hfirst : q (r.step x).1.world.history := b.suffix calls _ (by rw [← hcalls]; exact hq)
    have hfate := b.turn_fate ho h (keeps_start hk) hturn hfirst
    rw [← Traffic.append_assoc]
    exact ih (hturn.allOpen hopen) (ho.turn hturn hfirst) hfate
      (Bool.and_eq_true _ _ ▸ hk).2 hq

omit [OperatingSystem κ] in
theorem Fate.alive (h : Fate ctx living past i k r t) (ho : r.AllOpen)
    (hv : r.socket? i k = some v) : living r.world.history v t := by
  obtain ⟨-, ⟨u, hu, -, hl⟩ | ⟨hc, -⟩⟩ := h
  · cases hv.symm.trans hu
    exact hl
  · obtain ⟨s, hs, hk⟩ := socket?_eq_some.1 hv
    have hclosed := hc v hv
    rw [ho i s hs k v hk] at hclosed
    cases hclosed

omit [OperatingSystem κ] in
theorem Fate.ended (h : Fate ctx living past i k r t) (hn : r.socket? i k = none) :
    past r.world.history t := by
  obtain ⟨-, ⟨u, hu, -⟩ | ⟨-, hp⟩⟩ := h
  · rw [hn] at hu
    cases hu
  · exact hp

/-- What is known of a socket is known of it after inputs through which it was there. -/
theorem Biography.run_alive (b : Biography s.context settled q living past) (hopen : r.AllOpen)
    (ho : Basis q r) (hs : r.sessions[i]? = some s) (hv : s.sockets.get? k = some v)
    (hl : living r.world.history v t) {xs : List (Input κ)} (hc : Chronicle settled i k r xs t')
    (hk : r.keeps i k xs) (hq : q (r.run xs).world.history) :
    ∃ s' v', (r.run xs).sessions[i]? = some s' ∧ s'.sockets.get? k = some v' ∧
      s'.context = s.context ∧ living (r.run xs).world.history v' (t ++ t') := by
  have hfate : Fate s.context living past i k r t :=
    ⟨⟨s, hs, rfl⟩, .inl ⟨v, (socket?_of_session hs k).trans hv, hopen i s hs k v hv, hl⟩⟩
  have hend := b.run_fate hopen ho hfate hc hk hq
  obtain ⟨s', hs', hctx⟩ := hend.1
  obtain ⟨v', hv'⟩ := Option.ne_none_iff_exists'.1 (keeps_end hk)
  exact ⟨s', v', hs', (socket?_of_session hs' k).symm.trans hv', hctx,
    hend.alive (allOpen_run hopen xs) hv'⟩

/-- A step goes on with what is known of a socket, or it ends the socket. -/
theorem Biography.turn (b : Biography s.context settled q living past) (hopen : r.AllOpen)
    (ho : Basis q r) (hs : r.sessions[i]? = some s) (hv : s.sockets.get? k = some v)
    (hl : living r.world.history v t) {x : Input κ} {l : Log} {frames : List Outgoing}
    (ht : Turn settled r x l frames r') (hq : q r'.world.history) :
    (∀ v', r'.socket? i k = some v' → living r'.world.history v' (t ++ x.share l i k)) ∧
      (r'.socket? i k = none → past r'.world.history (t ++ x.share l i k)) := by
  have hik : r.socket? i k = some v := (socket?_of_session hs k).trans hv
  have hfate : Fate s.context living past i k r t :=
    ⟨⟨s, hs, rfl⟩, .inl ⟨v, hik, hopen i s hs k v hv, hl⟩⟩
  have hend := b.turn_fate ho hfate (by rw [hik]; exact nofun) ht hq
  exact ⟨fun v' hv' => hend.alive (ht.allOpen hopen) hv', hend.ended⟩

end SocketRelay.Relay

namespace SocketRelay.Loopback
open Protocol (Request)
open Relay (Incarnation)

theorem incarnation_visit :
    Incarnation ((Relay.start listening 8).run [.enter {}]) 0 1 .tcp (asks (.socket 1 0)) stay where
  asked := ⟨_, 0, rfl, eq_ok_of_toOption (by decide +kernel), rfl⟩
  fresh := by decide +kernel
  kept := by decide +kernel

end SocketRelay.Loopback
