import SocketRelay.Proofs.Socket.Lifecycle

/-!
# How a pending connect is settled

A connect that is under way is decided by a readiness, or it has been pending for too long. An error
condition fails it. Room to write asks the system for the pending error and decides by the answer;
an answer that fails counts as no error. Nothing else that may be asked of the socket tells the
client anything about its connect.

`Settled` is about one readiness, phase by phase, and `Settlement` about any operation.
-/
namespace SocketRelay
open Protocol (Event)
open SocketRelay.Action (Ends)

namespace VirtualSocket
variable {κ : Type} [OperatingSystem κ] {ctx : SocketContext} {v : VirtualSocket} {w : World κ}
variable {d : Descriptor}

/-- What the system would say now of the pending error. -/
def errorAnswer (w : World κ) (d : Descriptor) : Except Errno (Option Errno) :=
  (OperatingSystem.respond w.system (.takeError d)).1

/-- There is no pending error, or it cannot be asked for. -/
def Errorless (w : World κ) (d : Descriptor) : Prop :=
  errorAnswer w d = .ok none ∨ ∃ e, errorAnswer w d = .error e

theorem not_errorless : ¬ Errorless w d ↔ ∃ e, errorAnswer w d = .ok (some e) := by
  unfold Errorless
  cases errorAnswer w d with
  | error e => simp
  | ok answer => cases answer <;> simp

theorem pendingError_answer : (pendingError d).Ends w fun pending w' =>
    (pending = none ↔ Errorless w d) ∧ ∃ answer, w.Moved [⟨.takeError d, answer⟩] w.reactor w' := by
  unfold pendingError
  refine Ends.bind (p := fun answer w' => answer = errorAnswer w d ∧
    w.Moved [⟨.takeError d, answer⟩] w.reactor w') ⟨rfl, rfl, rfl, rfl, rfl⟩ ?_
  intro answer w' h
  obtain ⟨ha, hm⟩ := h
  unfold Errorless
  rw [← ha]
  cases answer with
  | error e => exact Ends.pure ⟨by simp, _, hm⟩
  | ok e => exact Ends.pure ⟨by simp, _, hm⟩

/-- The registration of the descriptor is gone, and the last call closed it. -/
structure GaveUp (d : Descriptor) (w w' : World κ) : Prop where
  table : w'.reactor.table = w.reactor.table.erase d
  closed : ∃ calls, w'.history = ⟨.close d, ()⟩ :: calls ++ w.history

/-- The connect has failed: the client is told so, and the socket is closed. -/
def Failed (v : VirtualSocket) (d : Descriptor) (w : World κ) (r : VirtualSocket × List Event)
    (w' : World κ) : Prop :=
  r = (v.shut, [.connected v.id false]) ∧ GaveUp d w w'

theorem failConnect_fails {w₁ : World κ} {lead : List Exchange} (hd : v.live? = some d)
    (hw : w.Moved lead w.reactor w₁) : v.failConnect.Ends w₁ (Failed v d w) := by
  obtain ⟨hv, hd⟩ := live?_eq_some.1 hd
  unfold failConnect
  refine Ends.bind (close_ends hv) ?_
  intro v' w' h
  obtain ⟨rfl, calls, r, hclosing, hm⟩ := h
  refine Ends.pure ⟨rfl, ?_⟩
  have htable : w₁.reactor.table = w.reactor.table := by rw [hw.reactor]
  rw [hd] at hclosing
  cases hclosing with
  | unwatched d hn =>
    refine ⟨by rw [hm.reactor, Reactor.withTable_table, htable], lead, ?_⟩
    rw [hm.history, hw.history]
    rfl
  | watched d answer =>
    refine ⟨by rw [hm.reactor, Reactor.withTable_table, htable],
      ⟨.epollRemove d, answer⟩ :: lead, ?_⟩
    rw [hm.history, hw.history]
    rfl

theorem onError_fails (hd : v.live? = some d) (hc : v.isConnecting) :
    v.onError.Ends w (Failed v d w) := by
  unfold onError
  rw [hd]
  refine Ends.bind pendingError_answer ?_
  intro _ w₁ h
  obtain ⟨-, answer, hm⟩ := h
  rw [if_pos hc]
  exact failConnect_fails hd hm

/-- The socket whose connect has succeeded. -/
def established (v : VirtualSocket) : VirtualSocket :=
  { v with connectStarted := none, connected := true }

theorem settleConnect_decides (hd : v.live? = some d) (hc : v.isConnecting) :
    (v.settleConnect d).Ends w fun r w' =>
      Errorless w d ∧ r = (v.established, [.connected v.id true]) ∨
        ¬ Errorless w d ∧ Failed v d w r w' := by
  unfold settleConnect
  rw [if_pos hc]
  refine Ends.bind pendingError_answer ?_
  intro pending w₁ h
  obtain ⟨hpending, answer, hm⟩ := h
  cases pending with
  | none => exact Ends.pure (.inl ⟨hpending.1 rfl, rfl⟩)
  | some e =>
    have herror : ¬ Errorless w d := fun h => nomatch hpending.2 h
    exact (failConnect_fails hd hm).mono fun _ _ h => .inr ⟨herror, h⟩

/-- The events say nothing of a connect. -/
def Mute (events : List Event) : Prop := ∀ id success, Event.connected id success ∉ events

theorem mute_nil : Mute [] := fun _ _ => List.not_mem_nil

theorem mute_singleton {event : Event} (h : ∀ id success, event ≠ .connected id success) :
    Mute [event] := fun id success hmem => h id success (List.mem_singleton.1 hmem).symm

theorem Mute.append {events events' : List Event} (h : Mute events) (h' : Mute events') :
    Mute (events ++ events') :=
  fun id success hmem => (List.mem_append.1 hmem).elim (h id success) (h' id success)

/-- A phase that neither tells of a connect nor begins one. -/
def Passes (v : VirtualSocket) (r : VirtualSocket × List Event) : Prop :=
  Mute r.2 ∧ (v.isConnecting = false → r.1.isConnecting = false)

theorem passes_same : Passes v (v, []) := ⟨mute_nil, fun h => h⟩

theorem peerGone_passes : v.peerGone.Ends w fun r _ => Passes v r := by
  unfold peerGone
  split
  · exact Ends.pure passes_same
  · rename_i hv
    refine Ends.bind (close_ends (Bool.eq_false_iff.2 hv)) fun v' w' h => Ends.pure ⟨?_, ?_⟩
    · exact mute_singleton nofun
    · rw [h.1]
      exact fun _ => rfl

theorem flushOutbound_passes : v.flushOutbound.Ends w fun r _ => Passes v r := by
  unfold flushOutbound
  split
  · exact Ends.pure passes_same
  · refine Ends.bind (p := fun _ _ => True) trivial fun result w₁ _ => ?_
    cases result with
    | ok rest => exact Ends.pure ⟨mute_nil, fun h => h⟩
    | error e => exact peerGone_passes

theorem onReadable_passes : (v.onReadable ctx).Ends w fun r _ => Passes v r := by
  unfold onReadable
  split
  · exact Ends.pure passes_same
  refine Ends.call fun answer w₁ _ => ?_
  cases answer with
  | ok data =>
    dsimp only
    split
    · exact peerGone_passes
    · exact Ends.pure ⟨mute_singleton nofun, fun h => h⟩
  | error e =>
    dsimp only
    split
    · exact Ends.pure passes_same
    · exact peerGone_passes

theorem onHangup_passes {hangup : Bool} : (v.onHangup hangup).Ends w fun r _ => Passes v r := by
  unfold onHangup
  split
  · exact Ends.pure passes_same
  split
  · exact peerGone_passes
  refine Ends.bind (p := fun _ _ => True) trivial fun result w₁ _ => ?_
  cases result with
  | ok => exact Ends.pure passes_same
  | error e => exact peerGone_passes

omit [OperatingSystem κ] in
theorem ifObserved_passes {observed : Bool} {phase : Action κ (VirtualSocket × List Event)}
    (h : phase.Ends w fun r _ => Passes v r) :
    (v.ifObserved observed phase).Ends w fun r _ => Passes v r := by
  unfold ifObserved
  split
  · exact h
  · exact Ends.pure passes_same

omit [OperatingSystem κ] in
theorem ifObserved_false (phase : Action κ (VirtualSocket × List Event)) :
    v.ifObserved false phase = pure (v, []) := rfl

omit [OperatingSystem κ] in
theorem ifObserved_idle {observed : Bool} {phase : Action κ (VirtualSocket × List Event)}
    (h : phase = pure (v, [])) : v.ifObserved observed phase = pure (v, []) := by
  rw [h]
  exact ite_self _

theorem flushOutbound_idle (h : v.live? = none) : v.flushOutbound (κ := κ) = pure (v, []) := by
  unfold flushOutbound
  rw [h]

theorem onWritable_idle (h : v.live? = none) : v.onWritable (κ := κ) = pure (v, []) := by
  unfold onWritable
  rw [h]

theorem onReadable_idle (h : v.live? = none) : v.onReadable (κ := κ) ctx = pure (v, []) := by
  unfold onReadable
  rw [h]

theorem onHangup_idle {hangup : Bool} (h : v.live? = none) :
    v.onHangup (κ := κ) hangup = pure (v, []) := by
  unfold onHangup
  rw [h]

/-- The phases after those that decide. -/
def remainder (v : VirtualSocket) (ctx : SocketContext) (ready : Interest) (told : List Event) :
    Action κ (VirtualSocket × List Event) := do
  let (s, received) ← v.ifObserved ready.read (v.onReadable ctx)
  let (s, ended) ← s.onHangup ready.hangup
  return (s, told ++ received ++ ended)

theorem remainder_passes {ready : Interest} {told : List Event} :
    (v.remainder ctx ready told).Ends w fun r _ =>
      ∃ rest, r.2 = told ++ rest ∧ Mute rest ∧
        (v.isConnecting = false → r.1.isConnecting = false) := by
  unfold remainder
  refine Ends.bind (ifObserved_passes onReadable_passes) ?_
  intro r₁ w₁ h₁
  refine Ends.bind onHangup_passes ?_
  intro r₂ w₂ h₂
  exact Ends.pure ⟨_, List.append_assoc .., h₁.1.append h₂.1, fun h => h₂.2 (h₁.2 h)⟩

theorem remainder_idle {ready : Interest} {told : List Event} (h : v.live? = none) :
    v.remainder (κ := κ) ctx ready told = pure (v, told) := by
  unfold remainder
  rw [ifObserved_idle (onReadable_idle h), pure_bind]
  dsimp only
  rw [onHangup_idle h, pure_bind]
  simp

theorem handleReady_eq (v : VirtualSocket) (ctx : SocketContext) (ready : Interest) :
    v.handleReady (κ := κ) ctx ready = (do
      let (s, failed) ← v.ifObserved ready.error v.onError
      let (s, written) ← s.ifObserved ready.write s.onWritable
      s.remainder ctx ready (failed ++ written)) := rfl

theorem onWritable_decides (hd : v.live? = some d) (hc : v.isConnecting) :
    v.onWritable.Ends w fun r w' =>
      (Errorless w d ∧ ∃ rest, r.2 = .connected v.id true :: rest ∧ Mute rest ∧
        r.1.isConnecting = false) ∨ ¬ Errorless w d ∧ Failed v d w r w' := by
  unfold onWritable
  rw [hd]
  refine Ends.bind (settleConnect_decides hd hc) ?_
  intro r₁ w₁ h₁
  rcases h₁ with ⟨herror, rfl⟩ | ⟨herror, rfl, hgave⟩
  · refine Ends.bind flushOutbound_passes ?_
    intro r₂ w₂ h₂
    exact Ends.pure (.inl ⟨herror, r₂.2, rfl, h₂.1, h₂.2 rfl⟩)
  · dsimp only
    rw [flushOutbound_idle (live?_of_closed rfl), pure_bind]
    exact Ends.pure (.inr ⟨herror, rfl, hgave⟩)

/-- What a readiness does about a pending connect. -/
inductive Settled (v : VirtualSocket) (d : Descriptor) (ready : Interest) (w : World κ)
    (r : VirtualSocket × List Event) (w' : World κ) : Prop
  | succeeded (rest) : ready.error = false → ready.write → Errorless w d →
      r.2 = .connected v.id true :: rest → Mute rest → r.1.isConnecting = false →
      Settled v d ready w r w'
  | failed : ready.error ∨ ready.write ∧ ¬ Errorless w d → Failed v d w r w' →
      Settled v d ready w r w'
  | undecided : ready.error = false → ready.write = false → Mute r.2 → Settled v d ready w r w'

theorem handleReady_settles {ready : Interest} (hd : v.live? = some d) (hc : v.isConnecting) :
    (v.handleReady ctx ready).Ends w (Settled v d ready w) := by
  have hshut : v.shut.live? = none := live?_of_closed rfl
  rw [handleReady_eq]
  cases he : ready.error with
  | true =>
    refine Ends.bind (onError_fails hd hc) ?_
    rintro r w₁ ⟨rfl, hgave⟩
    dsimp only
    rw [ifObserved_idle (onWritable_idle hshut), pure_bind]
    dsimp only
    rw [remainder_idle hshut]
    exact Ends.pure (.failed (.inl he) ⟨rfl, hgave⟩)
  | false =>
    rw [ifObserved_false, pure_bind]
    dsimp only
    cases hw : ready.write with
    | true =>
      refine Ends.bind (onWritable_decides hd hc) ?_
      rintro ⟨v₁, written⟩ w₁ h₁
      rcases h₁ with ⟨herror, rest, rfl, hrest, hdone⟩ | ⟨herror, heq, hgave⟩
      · refine remainder_passes.mono fun r w' h => ?_
        obtain ⟨more, hevents, hmore, hkept⟩ := h
        exact .succeeded (rest ++ more) he hw herror hevents (hrest.append hmore) (hkept hdone)
      · cases heq
        dsimp only
        rw [remainder_idle hshut]
        exact Ends.pure (.failed (.inr ⟨hw, herror⟩) ⟨rfl, hgave⟩)
    | false =>
      rw [ifObserved_false, pure_bind]
      refine remainder_passes.mono fun r w' h => ?_
      obtain ⟨more, hevents, hmore, -⟩ := h
      refine .undecided he hw ?_
      rw [hevents]
      exact hmore

/-- The operation fails the connect of the socket. -/
def Operation.Fails (operation : Operation) (v : VirtualSocket) (d : Descriptor) (w : World κ) :
    Prop :=
  (∃ ready, operation = .ready ready ∧
    (ready.error ∨ ready.write ∧ ∃ e, errorAnswer w d = .ok (some e))) ∨
  ∃ now timeout started, operation = .expire now timeout ∧ v.connectStarted = some started ∧
    timeout ≤ now - started

/-- The operation makes the connect of the socket succeed: there is room to write, and no error that
could be asked for. -/
def Operation.Succeeds (operation : Operation) (d : Descriptor) (w : World κ) : Prop :=
  ∃ ready, operation = .ready ready ∧ ready.write ∧ ready.error = false ∧
    (errorAnswer w d = .ok none ∨ ∃ e, errorAnswer w d = .error e)

theorem Operation.ready_succeeds {ready : Interest} : (Operation.ready ready).Succeeds d w ↔
    ready.write ∧ ready.error = false ∧ Errorless w d := by
  constructor
  · rintro ⟨_, heq, h⟩
    cases heq
    exact h
  · exact fun h => ⟨ready, rfl, h⟩

theorem Operation.ready_fails {ready : Interest} : (Operation.ready ready).Fails v d w ↔
    ready.error ∨ ready.write ∧ ¬ Errorless w d := by
  rw [not_errorless]
  constructor
  · rintro (⟨_, heq, h⟩ | ⟨_, _, _, heq, -⟩)
    · cases heq
      exact h
    · cases heq
  · exact fun h => .inl ⟨ready, rfl, h⟩

theorem Operation.expire_fails {now timeout started : Nat} (hs : v.connectStarted = some started) :
    (Operation.expire now timeout).Fails v d w ↔ timeout ≤ now - started := by
  constructor
  · rintro (⟨_, heq, -⟩ | ⟨_, _, _, heq, hs', h⟩)
    · cases heq
    · cases heq
      cases hs.symm.trans hs'
      exact h
  · exact fun h => .inr ⟨now, timeout, started, rfl, hs, h⟩

/-- What an operation on a socket with a pending connect tells of the connect. -/
structure Settlement (v : VirtualSocket) (d : Descriptor) (operation : Operation) (w : World κ)
    (o : Outcome) (w' : World κ) : Prop where
  succeeds : .connected v.id true ∈ o.events ↔ operation.Succeeds d w
  fails : .connected v.id false ∈ o.events ↔ operation.Fails v d w
  success : .connected v.id true ∈ o.events → o.socket.isConnecting = false ∧
    ∃ rest, o.events = .connected v.id true :: rest ∧
      ∀ id success, .connected id success ∉ rest
  failure : .connected v.id false ∈ o.events →
    o.events = [.connected v.id false] ∧ o.socket = v.shut ∧ GaveUp d w w'

/-- An operation that tells nothing and would not have decided either. -/
theorem Settlement.silent {operation : Operation} {o : Outcome} {w' : World κ} (h : Mute o.events)
    (hs : ¬ operation.Succeeds d w) (hf : ¬ operation.Fails v d w) :
    Settlement v d operation w o w' where
  succeeds := ⟨fun hmem => (h _ _ hmem).elim, fun h => (hs h).elim⟩
  fails := ⟨fun hmem => (h _ _ hmem).elim, fun h => (hf h).elim⟩
  success hmem := (h _ _ hmem).elim
  failure hmem := (h _ _ hmem).elim

theorem Settlement.failed {operation : Operation} {o : Outcome} {w' : World κ}
    (h : Failed v d w (o.socket, o.events) w') (hs : ¬ operation.Succeeds d w)
    (hf : operation.Fails v d w) : Settlement v d operation w o w' := by
  obtain ⟨heq, hgave⟩ := h
  obtain ⟨hsocket, hevents⟩ := Prod.mk.inj heq
  have hnever : .connected v.id true ∉ o.events := by simp [hevents]
  refine ⟨⟨fun hmem => (hnever hmem).elim, fun h => (hs h).elim⟩, ⟨fun _ => hf, fun _ => ?_⟩,
    fun hmem => (hnever hmem).elim, fun _ => ⟨hevents, hsocket, hgave⟩⟩
  rw [hevents]
  exact List.mem_singleton_self _

theorem Settled.settlement {ready : Interest} {r : VirtualSocket × List Event} {w' : World κ}
    (h : Settled v d ready w r w') :
    Settlement v d (.ready ready) w { socket := r.1, events := r.2 } w' := by
  cases h with
  | succeeded rest he hw herror hevents hrest hdone =>
    have hfails : ¬ (Operation.ready ready).Fails v d w := by
      rw [Operation.ready_fails]
      simp [he, herror]
    have hnever : .connected v.id false ∉ r.2 := by
      rw [hevents]
      simpa using hrest v.id false
    refine ⟨⟨fun _ => Operation.ready_succeeds.2 ⟨hw, he, herror⟩, fun _ => ?_⟩, ?_,
      fun _ => ⟨hdone, rest, hevents, hrest⟩, fun hmem => (hnever hmem).elim⟩
    · rw [hevents]
      exact List.mem_cons_self
    · exact ⟨fun hmem => (hnever hmem).elim, fun h => (hfails h).elim⟩
  | failed hcause hfailed =>
    refine .failed hfailed ?_ (Operation.ready_fails.2 hcause)
    rw [Operation.ready_succeeds]
    rintro ⟨-, he, herror⟩
    simp [he, herror] at hcause
  | undecided he hw hmute =>
    refine .silent hmute ?_ ?_
    · rw [Operation.ready_succeeds]
      simp [hw]
    · rw [Operation.ready_fails]
      simp [he, hw]

/-- A pending connect is decided by a readiness or by time, and by nothing else. -/
theorem Sound.settlement (hv : v.Sound) (hd : v.descriptor = some d) (hc : v.isConnecting)
    (operation : Operation) : (operation.run ctx v).Ends w (Settlement v d operation w) := by
  have hheld : v.descriptor ≠ none := by
    rw [hd]
    exact nofun
  have hlive : v.live? = some d := live?_eq_some.2 ⟨(hv.held hheld).2, hd⟩
  have hk : v.kind = .tcp := by
    cases hk : v.kind with
    | tcp => rfl
    | udp => simp [isConnecting, (hv.datagram hk).1] at hc
  have hother : operation.isRequest ∨ operation = .close →
      ¬ operation.Succeeds d w ∧ ¬ operation.Fails v d w := by
    intro h
    constructor
    · rintro ⟨ready, rfl, -⟩
      simp [Operation.isRequest] at h
    · rintro (⟨ready, rfl, -⟩ | ⟨now, timeout, started, rfl, -⟩) <;> simp [Operation.isRequest] at h
  have hsilent : ∀ {o : Outcome} {w'}, operation.isRequest ∨ operation = .close → o.events = [] →
      Settlement v d operation w o w' := by
    intro o w' h hevents
    exact .silent (by rw [hevents]; exact mute_nil) (hother h).1 (hother h).2
  cases operation with
  | bind port =>
    rw [Operation.run]
    split <;> exact Ends.pure (hsilent (.inl rfl) rfl)
  | connect address port =>
    rw [Operation.run, VirtualSocket.connect, if_neg (by simp [hk]), if_pos hc]
    exact Ends.pure (hsilent (.inl rfl) rfl)
  | send data =>
    exact (send_ends ctx True True).mono fun o w' h => hsilent (.inl rfl) h.1
  | sendto address port data =>
    rw [Operation.run, VirtualSocket.sendto, if_pos (by simp [hk])]
    exact Ends.pure (hsilent (.inl rfl) rfl)
  | ready events =>
    rw [Operation.run]
    exact Ends.bind (handleReady_settles hlive hc) fun r w' h => Ends.pure h.settlement
  | expire now timeout =>
    obtain ⟨started, hs⟩ := Option.isSome_iff_exists.1 hc
    have hnone : ¬ (Operation.expire now timeout).Succeeds d w := by
      rintro ⟨ready, heq, -⟩
      cases heq
    rw [Operation.run, expireConnect, hs]
    dsimp only
    split
    · rename_i hlate
      have hfails := (Operation.expire_fails (d := d) (w := w) hs).2 hlate
      exact Ends.bind (Ends.bind (failConnect_fails hlive (.refl w)) fun r w' h => Ends.pure h)
        (p := fun r w' => Failed v d w (r.1, r.2.1) w')
        fun r w' h => Ends.pure (.failed h hnone hfails)
    · rename_i hlate
      exact Ends.pure (.silent mute_nil hnone fun h => hlate ((Operation.expire_fails hs).1 h))
  | close =>
    rw [Operation.run]
    exact Ends.bind (p := fun _ _ => True) trivial fun _ _ _ => Ends.pure (hsilent (.inr rfl) rfl)

end VirtualSocket

end SocketRelay
