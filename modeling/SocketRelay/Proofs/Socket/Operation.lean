import SocketRelay.Proofs.Socket.Deed
import SocketRelay.Proofs.Table

/-!
# Operations as conduct

Every operation on a virtual socket is a sequence of deeds, whatever the system answers. Each
theorem follows the operation's own course from its first call on.
-/
namespace SocketRelay.VirtualSocket
open Protocol (Event)
open SocketRelay.Action (Ends)
variable {κ : Type} {ctx : SocketContext} {settled steady : Prop}
variable {v : VirtualSocket} {w : World κ} {d : Descriptor}

variable [OperatingSystem κ]

/-- The calls that open a descriptor and set it up, newest first, and how far it has got. -/
def Prepared (ctx : SocketContext) (v : VirtualSocket) (d : Descriptor) (calls : List Exchange)
    (s : Standing) : Prop :=
  ∃ setup, (∀ x ∈ setup, Preparing ctx v d x) ∧ Standing.Leads d { kind := v.kind } setup s ∧
    calls = setup ++ [⟨.openSocket v.kind, .ok d⟩]

theorem Prepared.cons {calls : List Exchange} {x : Exchange} {s : Standing}
    (h : Prepared ctx v d calls s) (hx : Preparing ctx v d x) (ha : s.admits x.call) :
    Prepared ctx v d (x :: calls) (s.after x) := by
  obtain ⟨setup, hs, hl, rfl⟩ := h
  exact ⟨x :: setup, List.forall_mem_cons.2 ⟨hx, hs⟩, hx.leads hl ha, rfl⟩

theorem Prepared.undone {calls : List Exchange} {s : Standing} (h : Prepared ctx v d calls s)
    (r : Reactor) : Misfire ctx v r (⟨.close d, ()⟩ :: calls) r := by
  obtain ⟨setup, hs, hl, rfl⟩ := h
  exact .undone d setup hs ⟨s, hl⟩

/-- The real socket before a connect: bound to the recorded port. -/
def seat (v : VirtualSocket) : Standing := { v.standing with link := .idle }

/-- Giving up a fresh descriptor undoes all that was done with it. -/
theorem discard_misfires {calls : List Exchange} {s : Standing} {operation : String} {e : Errno}
    {w₁ : World κ} (hp : Prepared ctx v d calls s) (hw : w.Moved calls w.reactor w₁) :
    (discard d operation e).Ends w₁ fun result w' => ∃ calls, w.Moved calls w.reactor w' ∧
      match result with
      | .ok d => Prepared ctx v d calls v.seat
      | .error _ => Misfire ctx v w.reactor calls w.reactor := by
  unfold discard
  refine Ends.call fun _ w₂ h₂ => Ends.pure ⟨_, ?_, hp.undone _⟩
  rw [hw.reactor] at h₂
  exact hw.trans h₂

/-- An explicit port is made reusable; port zero needs no call. -/
theorem allowReuse_ends {port : Port} {calls : List Exchange} {w₁ : World κ}
    (hp : Prepared ctx v d calls { kind := v.kind }) (hw : w.Moved calls w.reactor w₁) :
    (allowReuse d port).Ends w₁ fun result w' =>
      ∃ calls s, Prepared ctx v d calls s ∧ w.Moved calls w.reactor w' ∧
        ∀ u, result = .ok u → s = { kind := v.kind, reusable := port ≠ 0 } := by
  unfold allowReuse
  split
  · rename_i hport
    exact Ends.pure ⟨_, _, hp, hw, fun _ _ => by simp [hport]⟩
  · rename_i hport
    refine Ends.perform fun answer w₂ h₂ => ?_
    rw [hw.reactor] at h₂
    refine ⟨_, _, hp.cons (.reuse answer) rfl, hw.trans h₂, fun u hu => ?_⟩
    subst hu
    simp [Standing.after, hport]

theorem createReal_ends (ctx : SocketContext) :
    v.createReal.Ends w fun result w' => ∃ calls, w.Moved calls w.reactor w' ∧
      match result with
      | .ok d => Prepared ctx v d calls v.seat
      | .error _ => Misfire ctx v w.reactor calls w.reactor := by
  unfold createReal
  refine Ends.call fun answer w₁ h₁ => ?_
  cases answer with
  | error e => exact Ends.pure ⟨_, h₁, .unopened e⟩
  | ok d =>
    have hp : Prepared ctx v d [⟨.openSocket v.kind, .ok d⟩] { kind := v.kind } :=
      ⟨[], by simp, .rest, rfl⟩
    refine Ends.bind (allowReuse_ends hp h₁) ?_
    intro reuse w₂ hafter
    obtain ⟨calls, s, hp, h₂, hs⟩ := hafter
    cases reuse with
    | error e => exact discard_misfires hp h₂
    | ok =>
      obtain rfl := hs () rfl
      refine Ends.call fun answer w₃ h₃ => ?_
      rw [h₂.reactor] at h₃
      have hp := hp.cons (.bind answer) (by simp [Standing.admits])
      cases answer with
      | error e => exact discard_misfires hp (h₂.trans h₃)
      | ok => exact Ends.pure ⟨_, h₂.trans h₃, hp⟩

theorem close_ends (hv : v.closed = false) :
    v.close.Ends w fun v' w' => v' = v.shut ∧
      ∃ calls r, Closing w.reactor v.descriptor calls r ∧ w.Moved calls r w' := by
  unfold close
  simp only [hv, Bool.false_eq_true, if_false]
  split
  · rename_i hd
    exact Ends.pure ⟨rfl, [], w.reactor, hd ▸ .nothing, .refl w⟩
  · rename_i d hd
    refine Ends.bind Reactor.unregister_ends fun _ w₁ h₁ => ?_
    refine Ends.call fun answer w₂ h₂ => Ends.pure ⟨rfl, ?_⟩
    rw [hd]
    rcases h₁ with ⟨hn, rfl⟩ | ⟨a, h₁⟩
    · refine ⟨_, _, .unwatched d hn, ?_⟩
      rw [Table.erase_of_get?_eq_none hn]
      exact h₂
    · have h := h₁.trans h₂
      rw [h₁.reactor] at h
      exact ⟨_, _, .watched d a, h⟩

variable (ctx settled steady)

theorem close_ending {w₁ : World κ} {lead : List Exchange} {t : Traffic}
    (hv : v.closed = false) (he : Ending ctx settled v lead t)
    (hw : w.Moved lead w.reactor w₁) :
    v.close.Ends w₁ fun v' w' => Conduct ctx settled steady v w t v' w' ∧ v'.closed := by
  refine (close_ends hv).mono fun v' w' h => ?_
  obtain ⟨rfl, calls, r, hc, hw'⟩ := h
  rw [hw.reactor] at hc
  exact ⟨.single (.ended hv he hc) (hw.trans hw'), rfl⟩

theorem failConnect_conduct {w₁ : World κ} {lead : List Exchange} (hv : v.closed = false)
    (he : Ending ctx settled v lead { events := [.connected v.id false] })
    (hw : w.Moved lead w.reactor w₁) :
    v.failConnect.Ends w₁ fun r w' =>
      Conduct ctx settled steady v w { events := r.2 } r.1 w' ∧ r.1.closed := by
  unfold failConnect
  exact Ends.bind (close_ending ctx settled steady hv he hw) fun _ _ h => Ends.pure h

theorem peerGone_conduct {w₁ : World κ} {lead : List Exchange} (hd : v.live? = some d)
    (he : Ending ctx settled v lead { events := [.closed v.id] }) (hw : w.Moved lead w.reactor w₁) :
    v.peerGone.Ends w₁ fun r w' =>
      Conduct ctx settled steady v w { events := r.2 } r.1 w' ∧ r.1.closed := by
  have hv := (live?_eq_some.1 hd).1
  unfold peerGone
  simp only [hv, Bool.false_eq_true, if_false]
  exact Ends.bind (close_ending ctx settled steady hv he hw) fun _ _ h => Ends.pure h

omit [OperatingSystem κ] in
/-- A real socket that has got as far as its virtual one may be put under watch. -/
theorem leads_watched {b : VirtualSocket} {s : Standing} {setup : List Exchange} {bits : UInt32}
    {token : Token} {answer : Except Errno Unit} (hl : s.Leads d setup b.standing) :
    s.Leads d (⟨.epollAdd d bits token, answer⟩ :: setup) b.standing := by
  refine hl.call ⟨.epollAdd d bits token, answer⟩ rfl nofun ?_
  unfold Standing.admits standing
  cases b.kind with
  | udp => simp
  | tcp => simp

/-- Registering a descriptor that is set up: the socket takes it over, or it is given up. -/
theorem attach_conduct {b : VirtualSocket} {events : List Event}
    {calls : List Exchange} {w₁ : World κ} (hv : v.closed = false) (hd : v.descriptor = none)
    (hb : Begun v b events) (hp : Prepared ctx v d calls b.standing)
    (hw : w.Moved calls w.reactor w₁) :
    (b.attach ctx d).Ends w₁ fun result w' =>
      match result with
      | .ok b' => Conduct ctx settled steady v w { events } b' w' ∧ b'.closed = false
      | .error _ => Conduct ctx settled steady v w {} v w' := by
  have hid : b.id = v.id := by cases hb <;> rfl
  obtain ⟨setup, hset, hl, rfl⟩ := hp
  unfold attach
  refine Ends.bind Reactor.register_ends fun result w₂ h₂ => ?_
  rw [hw.reactor, hid] at h₂
  cases result with
  | error e =>
    obtain ⟨bits, token, e, h₂⟩ := h₂
    refine Ends.call fun answer w₃ h₃ => Ends.pure ?_
    rw [h₂.reactor] at h₃
    exact .single (.misfired hd hv (.unwatched d setup bits token e hset ⟨_, leads_watched hl⟩))
      ((hw.trans h₂).trans h₃)
  | ok token =>
    obtain ⟨rfl, h₂⟩ := h₂
    have hb' : b.closed = false := by cases hb <;> exact hv
    exact Ends.pure ⟨.single (.opened d setup hd hv hb hset (leads_watched hl)) (hw.trans h₂), hb'⟩

theorem connectFailed_conduct {e : RelayError} (hv : v.closed = false)
    (hc : v.isConnecting ∨ v.kind = .tcp ∧ v.descriptor = none) :
    (v.connectFailed e).Ends w fun o w' =>
      Conduct ctx settled steady v w { events := o.events } o.socket w' := by
  unfold connectFailed
  exact Ends.bind (failConnect_conduct ctx settled steady hv (.failed hc) (.refl w)) fun _ _ h =>
    Ends.pure h.1

/-- A connect that fails after it was begun fails like one that was not. -/
theorem Begun.connectFailed_eq {b : VirtualSocket} {events : List Event} {e : RelayError}
    (hb : Begun v b events) (hv : v.closed = false) :
    b.connectFailed (κ := κ) e = v.connectFailed e := by
  cases hb <;> simp [connectFailed, failConnect, close, hv]

theorem begun_issued (hk : v.kind = .tcp) (hs : v.connectStarted = none) (now : Nat)
    (status : ConnectStatus) :
    Begun v (v.issued now status) (v.issuedEvents status) := by
  cases status with
  | connected => exact .connected hk hs
  | inProgress => exact .pending now hk hs

omit [OperatingSystem κ] in
/-- A connect that has begun brings the real socket to where the virtual one is. -/
theorem seat_connected {destination : Endpoint4} {answer : Except Errno Unit}
    {status : ConnectStatus} (hk : v.kind = .tcp) (hs : v.connectStarted = none) (now : Nat)
    (ha : ConnectStatus.ofAnswer answer = .ok status) :
    v.seat.after ⟨.connect d destination, answer⟩ = (v.issued now status).standing := by
  change ({ v.standing with link := .ofAnswer answer } : Standing) = _
  unfold Link.ofAnswer
  rw [ha]
  cases status <;> simp [standing, issued, hk, hs]

theorem connectReal_conduct {address : Bytes} {port : Port} {destination : Endpoint4}
    {calls : List Exchange} {w₁ : World κ} (hv : v.closed = false) (hk : v.kind = .tcp)
    (hd : v.descriptor = none) (hs : v.connectStarted = none)
    (hr : resolveDestination address port ctx.settings.resolver = .ok destination)
    (hp : Prepared ctx v d calls v.seat) (hw : w.Moved calls w.reactor w₁) :
    (v.connectReal ctx d destination).Ends w₁ fun o w' =>
      Conduct ctx settled steady v w { events := o.events } o.socket w' := by
  have hfail : ∀ e w₃, Conduct ctx settled steady v w {} v w₃ →
      (v.connectFailed e).Ends w₃ fun o w' =>
      Conduct ctx settled steady v w { events := o.events } o.socket w' := fun e w₃ h =>
    (connectFailed_conduct ctx settled steady hv (.inr ⟨hk, hd⟩)).mono fun _ _ h' => h.trans h'
  unfold connectReal
  refine Ends.call fun answer w₂ h₂ => ?_
  have hp := hp.cons (.connect address port destination answer hk hr)
    (by simp [Standing.admits, seat, standing, hk])
  rw [hw.reactor] at h₂
  have h₂ := hw.trans h₂
  cases hstatus : ConnectStatus.ofAnswer answer with
  | error e =>
    refine Ends.call fun _ w₃ h₃ => hfail _ _ ?_
    rw [h₂.reactor] at h₃
    exact .single (.misfired hd hv (hp.undone _)) (h₂.trans h₃)
  | ok status =>
    refine Ends.read ?_
    have hb := begun_issued hk hs w₂.now status
    rw [seat_connected hk hs w₂.now hstatus] at hp
    refine Ends.bind (attach_conduct ctx settled steady hv hd hb hp h₂) fun result w₃ h₃ => ?_
    cases result with
    | error e =>
      simp only [hb.connectFailed_eq hv]
      exact hfail _ _ h₃
    | ok b => exact Ends.pure h₃.1

theorem connect_conduct {address : Bytes} {port : Port} :
    (v.connect ctx address port).Ends w fun o w' =>
      Conduct ctx settled steady v w { events := o.events } o.socket w' := by
  unfold connect
  split
  · exact Ends.pure .rest
  rename_i hk
  split
  · exact Ends.pure .rest
  rename_i hs
  split
  · exact Ends.pure .rest
  rename_i hd
  simp only [not_or, Bool.not_eq_true, Option.isSome_eq_false_iff, Option.isNone_iff_eq_none] at hd
  have hk : v.kind = .tcp := Decidable.not_not.1 hk
  have hs : v.connectStarted = none := by simpa [isConnecting] using hs
  split
  · exact Ends.pure .rest
  rename_i destination hr
  refine Ends.bind (createReal_ends ctx) ?_
  intro result w₁ hafter
  obtain ⟨calls, hw, hp⟩ := hafter
  cases result with
  | error e =>
    have hm : Conduct ctx settled steady v w {} v w₁ := .single (.misfired hd.1 hd.2 hp) hw
    exact (connectFailed_conduct ctx settled steady hd.2 (.inr ⟨hk, hd.1⟩)).mono fun _ _ h =>
      hm.trans h
  | ok d => exact connectReal_conduct ctx settled steady hd.2 hk hd.1 hs hr hp hw

theorem expireConnect_conduct {now timeout : Nat} (hv : v.closed = false) :
    (v.expireConnect now timeout).Ends w fun r w' =>
      Conduct ctx settled steady v w { events := r.2.1 } r.1 w' ∧
        (r.2.2 = false → r.1 = v ∧ w' = w) := by
  unfold expireConnect
  split
  · rename_i started hs
    split
    · have hc : v.isConnecting := by simp [isConnecting, hs]
      exact Ends.bind (failConnect_conduct ctx settled steady hv (.failed (.inl hc)) (.refl w))
        fun _ _ h => Ends.pure ⟨h.1, by simp⟩
    · exact Ends.pure ⟨.rest, fun _ => ⟨rfl, rfl⟩⟩
  · exact Ends.pure ⟨.rest, fun _ => ⟨rfl, rfl⟩⟩

omit [OperatingSystem κ] in
theorem bind_conduct {port : Port} {b : VirtualSocket} (h : v.bind port = .ok b) :
    Conduct ctx settled steady v w {} b w := by
  unfold bind at h
  split at h
  · cases h
  · rename_i hd
    split at h
    · cases h
    · rename_i hp
      cases h
      simp only [not_or, Bool.not_eq_true, Option.isSome_eq_false_iff, Option.isNone_iff_eq_none]
        at hd hp
      exact .single (.bound port hd.1 hd.2 hp) (.refl w)

theorem openDatagram_conduct (hv : v.closed = false) (hk : v.kind = .udp) :
    (v.openDatagram ctx).Ends w fun result w' =>
      match result with
      | .ok b => Conduct ctx settled steady v w {} b w' ∧ b.closed = false
      | .error _ => Conduct ctx settled steady v w {} v w' := by
  unfold openDatagram
  split
  · exact Ends.pure ⟨.rest, hv⟩
  · rename_i hd
    refine Ends.bind (createReal_ends ctx) ?_
    intro result w₁ hafter
    obtain ⟨calls, hw, hp⟩ := hafter
    cases result with
    | error e => exact Ends.pure (.single (.misfired hd hv hp) hw)
    | ok d =>
      have hseat : v.seat = v.standing := by simp [seat, standing, hk]
      exact attach_conduct ctx settled steady hv hd (.datagram hk) (hseat ▸ hp) hw

theorem sendto_conduct {address : Bytes} {port : Port} {data : Bytes} :
    (v.sendto ctx address port data).Ends w fun o w' =>
      Conduct ctx settled steady v w { events := o.events } o.socket w' := by
  unfold sendto
  split
  · exact Ends.pure .rest
  rename_i hk
  have hk : v.kind = .udp := by
    cases h : v.kind <;> simp_all
  split
  · exact Ends.pure .rest
  rename_i hv
  have hv : v.closed = false := by simpa using hv
  split
  · exact Ends.pure .rest
  rename_i destination hr
  refine Ends.bind (openDatagram_conduct ctx settled steady hv hk) fun result w₁ h₁ => ?_
  cases result with
  | error e => exact Ends.pure h₁
  | ok b =>
    obtain ⟨h₁, hb⟩ := h₁
    dsimp only
    split
    · exact Ends.pure h₁
    · rename_i d hd
      refine Ends.call fun answer w₂ h₂ => ?_
      have hi : Conduct ctx settled steady v w {} b w₂ := h₁.trans (.single (.idle d _
        (live?_eq_some.2 ⟨hb, hd⟩)
        (.datagram address port destination data answer (h₁.kind_eq.trans hk) hr)) h₂)
      cases answer with
      | error e => exact Ends.pure hi
      | ok n => exact Ends.pure hi

/-- What is written at once is accepted, and it is what the system took. -/
theorem writeNow_conduct {data : Bytes}
    (hd : v.live? = some d) (hk : v.kind = .tcp) :
    (v.writeNow d data).Ends w fun result w' =>
      match result with
      | .ok n => ∃ calls, w'.history = calls ++ w.history ∧ History.taken calls = data.take n ∧
          Conduct ctx settled steady v w { accepted := data.take n } v w'
      | .error e => (∃ errno, e = .io "send" errno) ∧ Conduct ctx settled steady v w {} v w' := by
  unfold writeNow
  split
  · exact Ends.pure ⟨[], rfl, rfl, .rest⟩
  rename_i hfree
  simp only [isConnecting, ne_eq, not_or, Bool.not_eq_true, Option.isSome_eq_false_iff,
    Option.isNone_iff_eq_none, Decidable.not_not] at hfree
  refine Ends.call fun answer w₁ h₁ => ?_
  cases answer with
  | ok n => exact Ends.pure ⟨_, h₁.history, rfl, .single (.wrote d data n hd hk hfree.1 hfree.2) h₁⟩
  | error e =>
    have hi : Conduct ctx settled steady v w {} v w₁ :=
      .single (.idle d _ hd (.unsent data e hk hfree.1)) h₁
    dsimp only
    split
    · exact Ends.pure ⟨_, h₁.history, rfl, hi⟩
    · exact Ends.pure ⟨⟨e, rfl⟩, hi⟩

theorem rearm_ends (hd : v.descriptor = some d) :
    v.rearm.Ends w fun result w' =>
      match result with
      | .ok _ => ∃ registration, w.reactor.table.get? d = some registration ∧
          w.Moved [⟨.epollModify d v.interest.toEpoll registration.token, .ok ()⟩]
            (w.reactor.withTable
              (w.reactor.table.insert d { registration with interest := v.interest })) w'
      | .error e => (∃ errno, e = .io "epoll_ctl(MOD)" errno) ∧ Reactor.SetFailed d w w' := by
  unfold rearm
  rw [hd]
  exact Reactor.setInterest_ends

/-- How keeping bytes for later can end. -/
inductive Enqueued (ctx : SocketContext) (settled steady : Prop) (v : VirtualSocket)
    (d : Descriptor) (rest : Bytes) (w : World κ) : Outcome → World κ → Prop
  | kept {o w'} : o.events = [] → o.result = .ok () →
      Conduct ctx settled steady v w { accepted := rest } o.socket w' →
      Enqueued ctx settled steady v d rest w o w'
  | limited {o} (queued limit) : o.events = [] →
      o.result = .error (.backpressure v.id queued limit) →
      o.socket = v → Enqueued ctx settled steady v d rest w o w
  | unarmed {o w'} (errno) : o.events = [] → o.result = .error (.io "epoll_ctl(MOD)" errno) →
      Reactor.SetFailed d w w' →
      Conduct ctx settled False v w { accepted := rest } o.socket w' →
      Enqueued ctx settled steady v d rest w o w'

theorem enqueue_ends {rest : Bytes} (hd : v.live? = some d) (hk : v.kind = .tcp) :
    (v.enqueue ctx rest).Ends w fun o w' => Enqueued ctx settled steady v d rest w o w' := by
  have hd' := (live?_eq_some.1 hd).2
  unfold enqueue
  dsimp only
  split
  · exact Ends.pure (.limited _ _ rfl rfl rfl)
  rename_i hlimit
  have hlimit := Nat.le_of_not_lt hlimit
  split
  · rename_i hidle
    have hidle : v.outbound = [] := List.isEmpty_iff.1 hidle
    simp only [hidle, List.length_nil, Nat.zero_add, List.nil_append] at hlimit ⊢
    refine Ends.bind (rearm_ends hd') fun result w' h => ?_
    cases result with
    | ok =>
      obtain ⟨registration, hr, h⟩ := h
      exact Ends.pure (.kept rfl rfl (.single (.queuedFirst d rest hd hk hidle hlimit hr) h))
    | error e =>
      obtain ⟨⟨errno, rfl⟩, hf⟩ := h
      refine Ends.pure (.unarmed errno rfl rfl hf ?_)
      have hq : Conduct ctx settled False v w { accepted := rest }
          { v with outbound := v.outbound ++ rest } w :=
        .single (.queued d rest hd hk False.elim (by simpa [hidle] using hlimit)) (.refl w)
      rw [hidle, List.nil_append] at hq
      rcases hf with ⟨-, rfl⟩ | ⟨bits, token, e, hm⟩
      · exact hq
      · exact hq.quietly (.idle d _ (live?_eq_some.2 (live?_eq_some.1 hd))
          (.unarmed bits token e)) hm
  · rename_i hbusy
    have hbusy : v.outbound ≠ [] := fun h => hbusy (List.isEmpty_iff.2 h)
    exact Ends.pure (.kept rfl rfl
      (.single (.queued d rest hd hk (fun _ => hbusy) hlimit) (.refl w)))

/-- How a send can end. -/
inductive Sent (ctx : SocketContext) (settled steady : Prop) (v : VirtualSocket) (data : Bytes)
    (w : World κ) : Outcome → World κ → Prop
  | done {o w'} : o.result = .ok () →
      Conduct ctx settled steady v w { accepted := data } o.socket w' →
      Sent ctx settled steady v data w o w'
  | limited {o w'} (calls queued limit) : o.result = .error (.backpressure v.id queued limit) →
      w'.history = calls ++ w.history →
      Conduct ctx settled steady v w { accepted := History.taken calls } o.socket w' →
      Sent ctx settled steady v data w o w'
  | refused {o w'} (e) : o.result = .error e →
      (∀ id queued limit, e ≠ .backpressure id queued limit) →
      Conduct ctx settled steady v w {} o.socket w' → Sent ctx settled steady v data w o w'
  | unarmed {o w' t} (d w₁ errno) : o.result = .error (.io "epoll_ctl(MOD)" errno) →
      v.live? = some d → Conduct ctx settled steady v w t v w₁ → Reactor.SetFailed d w₁ w' →
      Conduct ctx settled False v w { accepted := data } o.socket w' →
      Sent ctx settled steady v data w o w'

theorem send_ends {data : Bytes} :
    (v.send ctx data).Ends w fun o w' => o.events = [] ∧
      Sent ctx settled steady v data w o w' := by
  unfold send
  split
  · exact Ends.pure ⟨rfl, .refused _ rfl (by simp) .rest⟩
  rename_i hk
  have hk : v.kind = .tcp := Decidable.not_not.1 hk
  split
  · exact Ends.pure ⟨rfl, .refused _ rfl (by simp) .rest⟩
  rename_i d hd
  refine Ends.bind (writeNow_conduct ctx settled steady hd hk) fun result w₁ h₁ => ?_
  cases result with
  | error e =>
    obtain ⟨⟨errno, rfl⟩, h₁⟩ := h₁
    exact Ends.pure ⟨rfl, .refused _ rfl (by simp) h₁⟩
  | ok n =>
    obtain ⟨calls, hc, ht, h₁⟩ := h₁
    have hall : ({ accepted := data.take n } : Traffic) ++ ({ accepted := data.drop n } : Traffic) =
        { accepted := data } := Traffic.ext rfl (List.take_append_drop n data) rfl
    dsimp only
    split
    · rename_i hn
      rw [hn, List.take_length] at h₁
      exact Ends.pure ⟨rfl, .done rfl h₁⟩
    · refine (enqueue_ends ctx settled steady hd hk).mono fun o w' h => ?_
      cases h with
      | kept he hr h => exact ⟨he, .done hr (hall ▸ h₁.trans h)⟩
      | limited queued limit he hr hs =>
        exact ⟨he, .limited calls queued limit hr hc (by rw [ht, hs]; exact h₁)⟩
      | unarmed errno he hr hf h =>
        have h₁' := h₁.mono (fun h => h) False.elim
        exact ⟨he, .unarmed d w₁ errno hr hd h₁ hf (hall ▸ h₁'.trans h)⟩

/-- Flushing sends what waits, each time what the send before it left. -/
theorem flush_ends (data : Bytes) (w : World κ) :
    (flush d data).Ends w fun result w' => ∃ calls rest, Drained d data calls rest ∧
      w.Moved calls w.reactor w' ∧ (∀ kept, result = .ok kept → kept = rest) := by
  unfold flush
  split
  · rename_i h
    subst h
    exact Ends.pure ⟨[], [], .untouched, .refl w, by simp⟩
  rename_i hdata
  refine Ends.call fun answer w₁ h₁ => ?_
  cases answer with
  | error e =>
    have hu : Drained d data [⟨.send d data, .error e⟩] data := .unsent e .untouched hdata
    dsimp only
    split
    · exact Ends.pure ⟨_, _, hu, h₁, by simp⟩
    · exact Ends.pure ⟨_, _, hu, h₁, by simp⟩
  | ok n =>
    have hn : Drained d data [⟨.send d data, .ok n⟩] (data.drop n) := .sent n .untouched hdata
    have hpos := List.length_pos_iff.2 hdata
    dsimp only
    split
    · rename_i h0
      subst h0
      exact Ends.pure ⟨_, _, hn, h₁, by simp⟩
    · refine (flush_ends (data.drop n) w₁).mono ?_
      intro result w' hafter
      obtain ⟨calls, rest, hr, h₂, hkept⟩ := hafter
      rw [h₁.reactor] at h₂
      exact ⟨_, rest, hn.trans hr, h₁.trans h₂, hkept⟩
termination_by data.length
decreasing_by
  simp only [List.length_drop]
  omega

/-- An open socket in the middle of a readiness, or one that ended in it. -/
def Afoot (d : Descriptor) (quiet : Prop) (v : VirtualSocket) : Prop :=
  v.closed ∨ v.live? = some d ∧ (quiet → v.connectStarted = none)

theorem Afoot.mono {quiet quiet' : Prop} (h : Afoot d quiet v) (hq : quiet' → quiet) :
    Afoot d quiet' v := h.imp_right fun h => ⟨h.1, fun hq' => h.2 (hq hq')⟩

theorem live?_of_closed (h : v.closed) : v.live? = none := by simp [live?, h]

theorem pendingError_ends : (pendingError d).Ends w fun pending w' => ∃ answer,
    w.Moved [⟨.takeError d, answer⟩] w.reactor w' ∧
      (pending = none → ∀ e, answer ≠ .ok (some e)) := by
  unfold pendingError
  refine Ends.call fun answer w₁ h₁ => ?_
  cases answer with
  | ok e =>
    refine Ends.pure ⟨_, h₁, ?_⟩
    rintro rfl e he
    cases he
  | error e => exact Ends.pure ⟨_, h₁, fun _ => nofun⟩

theorem onError_conduct {quiet : Prop}
    (h : Afoot d quiet v) :
    v.onError.Ends w fun r w' => Conduct ctx settled False v w { events := r.2 } r.1 w' ∧
      Afoot d True r.1 := by
  unfold onError
  rcases h with hc | ⟨hd, -⟩
  · rw [live?_of_closed hc]
    exact Ends.pure ⟨.rest, .inl hc⟩
  rw [hd]
  obtain ⟨hv, hd'⟩ := live?_eq_some.1 hd
  refine Ends.bind pendingError_ends ?_
  intro _ w₁ hafter
  obtain ⟨answer, h₁, -⟩ := hafter
  split
  · rename_i hc
    exact (failConnect_conduct ctx settled False hv (.refused d answer hd' hc) h₁).mono
      fun _ _ h => ⟨h.1, .inl h.2⟩
  · rename_i hc
    have hs : v.connectStarted = none := by simpa [isConnecting] using hc
    exact Ends.pure ⟨.single (.idle d _ hd (.error answer hs)) h₁, .inr ⟨hd, fun _ => hs⟩⟩

theorem settleConnect_conduct (hd : v.live? = some d) :
    (v.settleConnect d).Ends w fun r w' =>
      Conduct ctx settled False v w { events := r.2 } r.1 w' ∧ Afoot d True r.1 := by
  unfold settleConnect
  split
  · rename_i hc
    obtain ⟨hv, hd'⟩ := live?_eq_some.1 hd
    refine Ends.bind pendingError_ends ?_
    intro failed w₁ hafter
    obtain ⟨answer, h₁, ha⟩ := hafter
    cases failed with
    | some e =>
      exact (failConnect_conduct ctx settled False hv (.refused d answer hd' hc) h₁).mono
        fun _ _ h => ⟨h.1, .inl h.2⟩
    | none =>
      refine Ends.pure ⟨.single (.settled d answer hd hc not_false (ha rfl)) h₁, .inr ⟨?_, ?_⟩⟩
      · exact live?_eq_some.2 (live?_eq_some.1 hd)
      · exact fun _ => rfl
  · rename_i hc
    exact Ends.pure ⟨.rest, .inr ⟨hd, fun _ => by simpa [isConnecting] using hc⟩⟩

theorem flushOutbound_conduct (h : Afoot d True v) :
    v.flushOutbound.Ends w fun r w' =>
      Conduct ctx settled False v w { events := r.2 } r.1 w' ∧ Afoot d True r.1 := by
  unfold flushOutbound
  rcases h with hc | ⟨hd, hq⟩
  · rw [live?_of_closed hc]
    exact Ends.pure ⟨.rest, .inl hc⟩
  rw [hd]
  refine Ends.bind (flush_ends v.outbound w) ?_
  intro result w₁ hafter
  obtain ⟨calls, rest, hr, h₁, hkept⟩ := hafter
  cases result with
  | ok kept =>
    obtain rfl := hkept kept rfl
    refine Ends.pure ⟨.single (.flushed d hd not_false hr (hq trivial)) h₁, .inr ⟨?_, hq⟩⟩
    exact live?_eq_some.2 (live?_eq_some.1 hd)
  | error e =>
    refine (peerGone_conduct ctx settled False hd ?_ h₁).mono fun _ _ h => ⟨h.1, .inl h.2⟩
    exact .unflushed d calls rest (live?_eq_some.1 hd).2 (fun _ => hq trivial) hr (hq trivial)

theorem onWritable_conduct {quiet : Prop} (h : Afoot d quiet v) :
    v.onWritable.Ends w fun r w' =>
      Conduct ctx settled False v w { events := r.2 } r.1 w' ∧ Afoot d True r.1 := by
  unfold onWritable
  rcases h with hc | ⟨hd, -⟩
  · rw [live?_of_closed hc]
    exact Ends.pure ⟨.rest, .inl hc⟩
  rw [hd]
  refine Ends.bind (settleConnect_conduct ctx settled hd) ?_
  rintro ⟨b, events⟩ w₁ ⟨h₁, hb⟩
  refine Ends.bind (flushOutbound_conduct ctx settled hb) ?_
  rintro ⟨b', events'⟩ w₂ ⟨h₂, hb'⟩
  exact Ends.pure ⟨h₁.trans h₂, hb'⟩

theorem onReadable_conduct {quiet : Prop} (h : Afoot d quiet v) (hs : settled → quiet) :
    (v.onReadable ctx).Ends w fun r w' =>
      Conduct ctx settled False v w { events := r.2 } r.1 w' ∧ Afoot d quiet r.1 := by
  unfold onReadable
  rcases h with hc | ⟨hd, hq⟩
  · rw [live?_of_closed hc]
    exact Ends.pure ⟨.rest, .inl hc⟩
  have hd' := (live?_eq_some.1 hd).2
  rw [hd]
  refine Ends.call fun answer w₁ h₁ => ?_
  cases answer with
  | ok data =>
    dsimp only
    split
    · rename_i hend
      rw [List.isEmpty_iff] at hend
      obtain ⟨rfl, hk⟩ := hend
      refine (peerGone_conduct ctx settled False hd ?_ h₁).mono fun _ _ h => ⟨h.1, .inl h.2⟩
      exact .finished d hd' (fun h => hq (hs h)) hk
    · rename_i hdata
      have hdata : v.kind = .tcp → data ≠ [] := fun hk h => hdata ⟨by simp [h], hk⟩
      exact Ends.pure ⟨.single (.received d data hd (fun h => hq (hs h)) hdata) h₁, .inr ⟨hd, hq⟩⟩
  | error e =>
    have hi : Conduct ctx settled False v w {} v w₁ := .single (.idle d _ hd (.unread e)) h₁
    dsimp only
    split
    · exact Ends.pure ⟨hi, .inr ⟨hd, hq⟩⟩
    · refine (peerGone_conduct ctx settled False hd ?_ (.refl w₁)).mono fun _ _ h =>
        ⟨hi.trans h.1, .inl h.2⟩
      exact .gone d hd' fun h => hq (hs h)

/-- The socket is armed with its present interest, as the last of what was done. -/
def Rearmed (ctx : SocketContext) (settled : Prop) (v : VirtualSocket) (w : World κ) (t : Traffic)
    (v' : VirtualSocket) (w' : World κ) : Prop :=
  ∃ w₁ d registration, Conduct ctx settled False v w t v' w₁ ∧ v'.live? = some d ∧
    w₁.reactor.table.get? d = some registration ∧
    w₁.Moved [⟨.epollModify d v'.interest.toEpoll registration.token, .ok ()⟩]
      (w₁.reactor.withTable
        (w₁.reactor.table.insert d { registration with interest := v'.interest })) w'

omit [OperatingSystem κ] in
theorem Rearmed.after {v₀ v' : VirtualSocket} {w₀ w' : World κ} {t t' : Traffic}
    (h : Rearmed ctx settled v w t v' w') (hc : Conduct ctx settled False v₀ w₀ t' v w) :
    Rearmed ctx settled v₀ w₀ (t' ++ t) v' w' := by
  obtain ⟨w₁, d, registration, h, hd, hr, hm⟩ := h
  exact ⟨w₁, d, registration, hc.trans h, hd, hr, hm⟩

theorem onHangup_conduct {quiet : Prop} {hangup : Bool} (h : Afoot d quiet v)
    (hs : settled → quiet) :
    (v.onHangup hangup).Ends w fun r w' =>
      Conduct ctx settled False v w { events := r.2 } r.1 w' ∧
        (r.1.closed ∨ Rearmed ctx settled v w { events := r.2 } r.1 w') := by
  unfold onHangup
  rcases h with hc | ⟨hd, hq⟩
  · rw [live?_of_closed hc]
    exact Ends.pure ⟨.rest, .inl hc⟩
  have hd' := (live?_eq_some.1 hd).2
  have hgone : Ending ctx settled v [] { events := [.closed v.id] } :=
    .gone d hd' fun h => hq (hs h)
  rw [hd]
  dsimp only
  split
  · exact (peerGone_conduct ctx settled False hd hgone (.refl w)).mono fun _ _ h => ⟨h.1, .inl h.2⟩
  refine Ends.bind (rearm_ends hd') fun result w₁ h => ?_
  cases result with
  | ok =>
    obtain ⟨registration, hr, h⟩ := h
    exact Ends.pure ⟨.single (.rearmed d hd hr) h, .inr ⟨w, d, registration, .rest, hd, hr, h⟩⟩
  | error e =>
    obtain ⟨-, hf⟩ := h
    have hi : Conduct ctx settled False v w {} v w₁ := by
      rcases hf with ⟨-, rfl⟩ | ⟨bits, token, e, hm⟩
      · exact .rest
      · exact .single (.idle d _ hd (.unarmed bits token e)) hm
    exact (peerGone_conduct ctx settled False hd hgone (.refl w₁)).mono fun _ _ h =>
      ⟨hi.trans h.1, .inl h.2⟩

/-- What a phase of a readiness leaves: its events told, and the socket open or ended. -/
def Phase (ctx : SocketContext) (settled : Prop) (v : VirtualSocket) (w : World κ) (d : Descriptor)
    (quiet : Prop) (r : VirtualSocket × List Event) (w' : World κ) : Prop :=
  Conduct ctx settled False v w { events := r.2 } r.1 w' ∧ Afoot d quiet r.1

omit [OperatingSystem κ] in
theorem ifObserved_ends {observed : Bool} {phase : Action κ (VirtualSocket × List Event)}
    {quiet q : Prop} (h : Afoot d quiet v)
    (hp : observed → phase.Ends w (Phase ctx settled v w d q))
    (hq : ¬ observed → q → quiet) :
    (v.ifObserved observed phase).Ends w (Phase ctx settled v w d q) := by
  unfold ifObserved
  split
  · exact hp ‹_›
  · exact Ends.pure ⟨.rest, h.mono (hq ‹_›)⟩

/-- Handling a readiness of a socket that is open: it ends closed, or armed with its interest. -/
theorem handleReady_conduct {ready : Interest} (hd : v.live? = some d)
    (hs : settled → v.connectStarted = none ∨ ready.write ∨ ready.error) :
    (v.handleReady ctx ready).Ends w fun r w' =>
      Conduct ctx settled False v w { events := r.2 } r.1 w' ∧
        (r.1.closed ∨ Rearmed ctx settled v w { events := r.2 } r.1 w') := by
  have h₀ : Afoot d (v.connectStarted = none) v := .inr ⟨hd, fun h => h⟩
  unfold handleReady
  refine Ends.bind (ifObserved_ends ctx settled
    (q := v.connectStarted = none ∨ ready.error) h₀ ?_ ?_) ?_
  · exact fun _ => (onError_conduct ctx settled h₀).mono fun _ _ h =>
      ⟨h.1, h.2.mono fun _ => trivial⟩
  · exact fun he h => h.resolve_right he
  rintro ⟨v₁, failed⟩ w₁ ⟨c₁, h₁⟩
  refine Ends.bind (ifObserved_ends ctx settled
    (q := v.connectStarted = none ∨ ready.write ∨ ready.error) h₁ ?_ ?_) ?_
  · exact fun _ => (onWritable_conduct ctx settled h₁).mono fun _ _ h =>
      ⟨h.1, h.2.mono fun _ => trivial⟩
  · exact fun hw h => h.imp_right fun h => h.resolve_left hw
  rintro ⟨v₂, written⟩ w₂ ⟨c₂, h₂⟩
  refine Ends.bind (ifObserved_ends ctx settled h₂ (fun _ => onReadable_conduct ctx settled h₂ hs)
    fun _ h => h) ?_
  rintro ⟨v₃, received⟩ w₃ ⟨c₃, h₃⟩
  refine Ends.bind (onHangup_conduct ctx settled h₃ hs) ?_
  rintro ⟨v₄, ended⟩ w₄ ⟨c₄, h₄⟩
  have c := (c₁.trans c₂).trans c₃
  exact Ends.pure ⟨c.trans c₄, h₄.imp_right fun h => h.after ctx settled c⟩

theorem handleReady_of_live?_eq_none {ready : Interest} (h : v.live? = none) :
    v.handleReady (κ := κ) ctx ready = pure (v, []) := by
  have hskip : ∀ observed, ∀ phase : Action κ (VirtualSocket × List Event),
      phase = pure (v, []) → v.ifObserved observed phase = pure (v, []) := by
    rintro observed _ rfl
    exact ite_self _
  unfold handleReady
  rw [hskip _ _ (by unfold onError; rw [h])]
  rw [pure_bind]
  dsimp only
  rw [hskip _ _ (by unfold onWritable; rw [h])]
  rw [pure_bind]
  dsimp only
  rw [hskip _ _ (by unfold onReadable; rw [h]), pure_bind]
  dsimp only
  unfold onHangup
  rw [h, pure_bind]
  rfl

end SocketRelay.VirtualSocket
