import SocketRelay.Proofs.Action
import SocketRelay.Socket.Virtual

/-!
# Which calls an operation makes

`Action.Makes` bounds the calls of an action from above, whatever world it starts in and whatever
the system answers. The operations on a virtual socket fall into a few vocabularies: giving
something up, acquiring a descriptor, writing, and serving a readiness. What is said here holds
without any invariant; in which order calls come is not said.
-/
namespace SocketRelay
variable {κ α β : Type}

namespace Action
variable {a : Action κ α} {f : α → Action κ β} {P Q : Call → Prop}

/-- Every call that the action makes satisfies `P`. -/
def Makes (a : Action κ α) (P : Call → Prop) : Prop :=
  ∀ w, ∃ calls, (a w).2.history = calls ++ w.history ∧ ∀ x ∈ calls, P x.call

theorem Makes.silent (h : ∀ w, (a w).2.history = w.history) : a.Makes P :=
  fun w => ⟨[], h w, nofun⟩

theorem Makes.pure (x : α) : Makes (pure x : Action κ α) P := .silent fun _ => rfl

theorem Makes.get : Makes (get : Action κ (World κ)) P := .silent fun _ => rfl

theorem Makes.bind (h : a.Makes P) (hf : ∀ x, (f x).Makes P) : (a >>= f).Makes P := by
  intro w
  obtain ⟨calls, hc, hp⟩ := h w
  obtain ⟨more, hm, hq⟩ := hf (a w).1 (a w).2
  refine ⟨more ++ calls, ?_, fun x hx => (List.mem_append.1 hx).elim (hq x) (hp x)⟩
  change (f (a w).1 (a w).2).2.history = _
  rw [hm, hc, List.append_assoc]

theorem Makes.mono (h : a.Makes P) (hp : ∀ c, P c → Q c) : a.Makes Q := by
  intro w
  obtain ⟨calls, hc, hall⟩ := h w
  exact ⟨calls, hc, fun x hx => hp _ (hall x hx)⟩

theorem Makes.ends (h : a.Makes P) (w : World κ) : a.Ends w fun _ w' =>
    ∃ calls, w'.history = calls ++ w.history ∧ ∀ x ∈ calls, P x.call := h w

theorem makes_perform [OperatingSystem κ] {c : Call} (h : P c) : Makes (κ := κ) (perform c) P :=
  fun _ => ⟨[_], rfl, List.forall_mem_singleton.2 h⟩

end Action

open SocketRelay.Action (Ends Makes makes_perform)

/-- The datagram that a call sends, with its destination. -/
def Exchange.posted? (x : Exchange) : Option (Bytes × Endpoint4) :=
  match x.call with
  | .sendTo _ data destination => some (data, destination)
  | _ => none

def posted (calls : List Exchange) : List (Bytes × Endpoint4) := calls.filterMap Exchange.posted?

/-- Giving something up. -/
inductive Releasing : Call → Prop
  | close (d) : Releasing (.close d)
  | remove (d) : Releasing (.epollRemove d)

/-- Opening a descriptor of a kind, bound to a port, or giving it up again. -/
inductive Acquiring (kind : SocketKind) (port : Port) : Call → Prop
  | asked : Acquiring kind port (.openSocket kind)
  | reused (d) : Acquiring kind port (.setReuseAddress d)
  | bound (d) : Acquiring kind port (.bindAny d port)
  | watched (d bits token) : Acquiring kind port (.epollAdd d bits token)
  | released {c} : Releasing c → Acquiring kind port c

/-- Writing on a stream, and waiting for room. -/
inductive Writing : Call → Prop
  | sent (d data) : Writing (.send d data)
  | armed (d bits token) : Writing (.epollModify d bits token)

/-- Serving a readiness. -/
inductive Serving : Call → Prop
  | error (d) : Serving (.takeError d)
  | read (d size) : Serving (.recv d size)
  | written {c} : Writing c → Serving c
  | released {c} : Releasing c → Serving c

namespace Reactor
variable {P : Call → Prop}

theorem makes_modifyTable (f : Table Descriptor Registration → Table Descriptor Registration) :
    Makes (κ := κ) (modifyTable f) P := .silent fun _ => rfl

variable [OperatingSystem κ]

theorem makes_register (d : Descriptor) (socket : SocketId) (mailbox : MailboxId)
    (interest : Interest) (kind : SocketKind) (port : Port) :
    Makes (κ := κ) (register d socket mailbox interest) (Acquiring kind port) := by
  have hdraw : Makes (κ := κ) drawGeneration (Acquiring kind port) := .silent fun _ => rfl
  refine hdraw.bind fun generation => (makes_perform (.watched d _ _)).bind fun answer => ?_
  cases answer with
  | error e => exact .pure _
  | ok => exact (makes_modifyTable _).bind fun _ => .pure _

theorem makes_setInterest (d : Descriptor) (interest : Interest) :
    Makes (κ := κ) (setInterest d interest) Writing := by
  refine Makes.get.bind fun w => ?_
  split
  · exact .pure _
  · refine (makes_perform (.armed d _ _)).bind fun answer => ?_
    cases answer with
    | error e => exact .pure _
    | ok => exact (makes_modifyTable _).bind fun _ => .pure _

theorem makes_unregister (d : Descriptor) : Makes (κ := κ) (unregister d) Releasing := by
  refine Makes.get.bind fun w => ?_
  split
  · exact .pure _
  · refine (makes_modifyTable _).bind fun _ => (makes_perform (.remove d)).bind fun answer => ?_
    cases answer with
    | ok => exact .pure _
    | error e =>
      dsimp only
      split
      · exact .pure _
      · exact .pure _

end Reactor

namespace VirtualSocket
variable (v : VirtualSocket) (ctx : SocketContext) [OperatingSystem κ]

theorem makes_close : Makes (κ := κ) v.close Releasing := by
  unfold close
  split
  · exact .pure _
  · split
    · exact .pure _
    · exact (Reactor.makes_unregister _).bind fun _ =>
        (makes_perform (.close _)).bind fun _ => .pure _

theorem makes_failConnect : Makes (κ := κ) v.failConnect Releasing :=
  v.makes_close.bind fun _ => .pure _

theorem makes_peerGone : Makes (κ := κ) v.peerGone Releasing := by
  unfold peerGone
  split
  · exact .pure _
  · exact v.makes_close.bind fun _ => .pure _

theorem makes_connectFailed (e : RelayError) : Makes (κ := κ) (v.connectFailed e) Releasing :=
  v.makes_failConnect.bind fun _ => .pure _

theorem makes_expireConnect (now timeout : Nat) :
    Makes (κ := κ) (v.expireConnect now timeout) Releasing := by
  unfold expireConnect
  split
  · split
    · exact v.makes_failConnect.bind fun _ => .pure _
    · exact .pure _
  · exact .pure _

theorem makes_discard (d : Descriptor) (operation : String) (e : Errno) :
    Makes (κ := κ) (discard d operation e) Releasing :=
  (makes_perform (.close d)).bind fun _ => .pure _

theorem makes_allowReuse (d : Descriptor) (kind : SocketKind) (port : Port) :
    Makes (κ := κ) (allowReuse d port) (Acquiring kind port) := by
  unfold allowReuse
  split
  · exact .pure _
  · exact makes_perform (.reused d)

/-- A fresh descriptor of the socket's kind is bound to the recorded port. -/
theorem makes_createReal :
    Makes (κ := κ) v.createReal (Acquiring v.kind (v.localPort.getD 0)) := by
  refine (makes_perform .asked).bind fun answer => ?_
  cases answer with
  | error e => exact .pure _
  | ok d =>
    refine (makes_allowReuse d _ _).bind fun reuse => ?_
    cases reuse with
    | error e => exact (makes_discard d _ e).mono fun _ => .released
    | ok =>
      refine (makes_perform (.bound d)).bind fun answer => ?_
      cases answer with
      | error e => exact (makes_discard d _ e).mono fun _ => .released
      | ok => exact .pure _

theorem makes_attach (d : Descriptor) (kind : SocketKind) (port : Port) :
    Makes (κ := κ) (v.attach ctx d) (Acquiring kind port) := by
  refine (Reactor.makes_register d _ _ _ kind port).bind fun result => ?_
  cases result with
  | error e => exact (makes_perform (.released (.close d))).bind fun _ => .pure _
  | ok token => exact .pure _

/-- The calls of a connect: a descriptor is acquired and connected to this destination. -/
def Dialling (destination : Endpoint4) (c : Call) : Prop :=
  Acquiring v.kind (v.localPort.getD 0) c ∨ ∃ d, c = .connect d destination

theorem makes_connectReal (d : Descriptor) (destination : Endpoint4) :
    Makes (κ := κ) (v.connectReal ctx d destination) (v.Dialling destination) := by
  have hfailed : ∀ (u : VirtualSocket) e,
      Makes (κ := κ) (u.connectFailed e) (v.Dialling destination) :=
    fun u e => (u.makes_connectFailed e).mono fun _ hc => .inl (.released hc)
  refine (makes_perform (.inr ⟨d, rfl⟩)).bind fun answer => ?_
  split
  · exact (makes_perform (.inl (.released (.close d)))).bind fun _ => hfailed _ _
  · refine Makes.get.bind fun w => ?_
    refine ((makes_attach _ ctx d _ _).mono fun _ => .inl).bind fun result => ?_
    cases result with
    | error e => exact hfailed _ e
    | ok attached => exact .pure _

/-- A connect that is not refused at once knows its destination. -/
theorem makes_connect (address : Bytes) (port : Port) :
    Makes (κ := κ) (v.connect ctx address port) fun c => v.kind = .tcp ∧ v.descriptor = none ∧
      ∃ destination, resolveDestination address port ctx.settings.resolver = .ok destination ∧
        v.Dialling destination c := by
  unfold connect
  split
  · exact .pure _
  rename_i hk
  split
  · exact .pure _
  split
  · exact .pure _
  rename_i hd
  simp only [not_or, Option.isSome_iff_ne_none, ne_eq, Decidable.not_not] at hd
  split
  · exact .pure _
  rename_i destination hr
  refine Makes.mono (P := v.Dialling destination) ?_ fun c hc =>
    ⟨Decidable.not_not.1 hk, hd.1, destination, hr, hc⟩
  refine (v.makes_createReal.mono fun _ => .inl).bind fun result => ?_
  cases result with
  | error e => exact (v.makes_connectFailed e).mono fun _ hc => .inl (.released hc)
  | ok d => exact v.makes_connectReal ctx d destination

theorem makes_rearm : Makes (κ := κ) v.rearm Writing := by
  unfold rearm
  split
  · exact Reactor.makes_setInterest _ _
  · exact .pure _

theorem makes_writeNow (d : Descriptor) (data : Bytes) :
    Makes (κ := κ) (v.writeNow d data) Writing := by
  unfold writeNow
  split
  · exact .pure _
  · refine (makes_perform (.sent d data)).bind fun answer => ?_
    cases answer with
    | ok n => exact .pure _
    | error e =>
      dsimp only
      split
      · exact .pure _
      · exact .pure _

theorem makes_enqueue (rest : Bytes) : Makes (κ := κ) (v.enqueue ctx rest) Writing := by
  unfold enqueue
  dsimp only
  split
  · exact .pure _
  · split
    · exact (makes_rearm _).bind fun _ => .pure _
    · exact .pure _

theorem makes_send (data : Bytes) : Makes (κ := κ) (v.send ctx data) Writing := by
  unfold send
  split
  · exact .pure _
  split
  · exact .pure _
  refine (v.makes_writeNow _ data).bind fun result => ?_
  cases result with
  | error e => exact .pure _
  | ok written =>
    dsimp only
    split
    · exact .pure _
    · exact v.makes_enqueue ctx _

theorem makes_openDatagram :
    Makes (κ := κ) (v.openDatagram ctx) (Acquiring v.kind (v.localPort.getD 0)) := by
  unfold openDatagram
  split
  · exact .pure _
  · refine v.makes_createReal.bind fun result => ?_
    cases result with
    | error e => exact .pure _
    | ok d => exact v.makes_attach ctx d _ _

/-- The calls of a datagram sent: a descriptor is acquired, and the data go to this destination. -/
def Posting (data : Bytes) (destination : Endpoint4) (c : Call) : Prop :=
  Acquiring v.kind (v.localPort.getD 0) c ∨ ∃ d, c = .sendTo d data destination

theorem makes_sendto (address : Bytes) (port : Port) (data : Bytes) :
    Makes (κ := κ) (v.sendto ctx address port data) fun c => v.kind = .udp ∧
      ∃ destination, resolveDestination address port ctx.settings.resolver = .ok destination ∧
        v.Posting data destination c := by
  unfold sendto
  split
  · exact .pure _
  rename_i hk
  split
  · exact .pure _
  split
  · exact .pure _
  rename_i destination hr
  refine Makes.mono (P := v.Posting data destination) ?_ fun c hc =>
    ⟨Decidable.not_not.1 hk, destination, hr, hc⟩
  refine ((v.makes_openDatagram ctx).mono fun _ => .inl).bind fun result => ?_
  cases result with
  | error e => exact .pure _
  | ok opened =>
    dsimp only
    split
    · exact .pure _
    · refine (makes_perform (.inr ⟨_, rfl⟩)).bind fun answer => ?_
      cases answer with
      | ok n => exact .pure _
      | error e => exact .pure _

omit [OperatingSystem κ] in
theorem posted_of_acquiring {kind : SocketKind} {port : Port} {calls : List Exchange}
    (h : ∀ x ∈ calls, Acquiring kind port x.call) : posted calls = [] := by
  refine List.filterMap_eq_nil_iff.2 fun x hx => ?_
  have hcall := h x hx
  unfold Exchange.posted?
  split
  · rename_i heq
    rw [heq] at hcall
    cases hcall with
    | released h => cases h
  · rfl

/-- A datagram that was sent without complaint was sent once, and it is the one asked for. -/
theorem sendto_posts {w : World κ} {address : Bytes} {port : Port} {data : Bytes} :
    (v.sendto ctx address port data).Ends w fun o w' => o.result = .ok () →
      ∃ calls destination, w'.history = calls ++ w.history ∧
        resolveDestination address port ctx.settings.resolver = .ok destination ∧
        posted calls = [(data, destination)] := by
  unfold sendto
  split
  · exact Ends.pure nofun
  split
  · exact Ends.pure nofun
  split
  · exact Ends.pure nofun
  rename_i destination hr
  refine Ends.bind ((v.makes_openDatagram ctx).ends w) ?_
  intro result w₁ hafter
  obtain ⟨calls, hcalls, hacquiring⟩ := hafter
  cases result with
  | error e => exact Ends.pure nofun
  | ok opened =>
    dsimp only
    split
    · exact Ends.pure nofun
    rename_i d hd
    refine Ends.call fun answer w₂ h₂ => ?_
    cases answer with
    | error e => exact Ends.pure nofun
    | ok n =>
      refine Ends.pure fun _ =>
        ⟨⟨.sendTo d data destination, .ok n⟩ :: calls, destination, ?_, hr, ?_⟩
      · rw [h₂.history, hcalls]
        rfl
      · exact congrArg ((data, destination) :: ·) (posted_of_acquiring hacquiring)

theorem makes_pendingError (d : Descriptor) : Makes (κ := κ) (pendingError d) Serving := by
  refine (makes_perform (.error d)).bind fun answer => ?_
  cases answer with
  | ok e => exact .pure _
  | error e => exact .pure _

theorem makes_flush (d : Descriptor) (data : Bytes) : Makes (κ := κ) (flush d data) Serving := by
  unfold flush
  split
  · exact .pure _
  rename_i hdata
  refine (makes_perform (.written (.sent d data))).bind fun answer => ?_
  cases answer with
  | error e =>
    dsimp only
    split
    · exact .pure _
    · exact .pure _
  | ok n =>
    have hpos := List.length_pos_iff.2 hdata
    dsimp only
    split
    · exact .pure _
    · exact makes_flush d (data.drop n)
termination_by data.length
decreasing_by
  simp only [List.length_drop]
  omega

theorem makes_onError : Makes (κ := κ) v.onError Serving := by
  unfold onError
  split
  · exact .pure _
  · refine (makes_pendingError _).bind fun _ => ?_
    split
    · exact v.makes_failConnect.mono fun _ => .released
    · exact .pure _

theorem makes_settleConnect (d : Descriptor) : Makes (κ := κ) (v.settleConnect d) Serving := by
  unfold settleConnect
  split
  · refine (makes_pendingError d).bind fun failed => ?_
    cases failed with
    | some e => exact v.makes_failConnect.mono fun _ => .released
    | none => exact .pure _
  · exact .pure _

theorem makes_flushOutbound : Makes (κ := κ) v.flushOutbound Serving := by
  unfold flushOutbound
  split
  · exact .pure _
  · refine (makes_flush _ _).bind fun result => ?_
    cases result with
    | ok rest => exact .pure _
    | error e => exact v.makes_peerGone.mono fun _ => .released

theorem makes_onWritable : Makes (κ := κ) v.onWritable Serving := by
  unfold onWritable
  split
  · exact .pure _
  · exact (v.makes_settleConnect _).bind fun settled =>
      settled.1.makes_flushOutbound.bind fun _ => .pure _

theorem makes_onReadable : Makes (κ := κ) (v.onReadable ctx) Serving := by
  unfold onReadable
  split
  · exact .pure _
  · refine (makes_perform (.read _ _)).bind fun answer => ?_
    cases answer with
    | ok data =>
      dsimp only
      split
      · exact v.makes_peerGone.mono fun _ => .released
      · exact .pure _
    | error e =>
      dsimp only
      split
      · exact .pure _
      · exact v.makes_peerGone.mono fun _ => .released

theorem makes_onHangup (hangup : Bool) : Makes (κ := κ) (v.onHangup hangup) Serving := by
  unfold onHangup
  split
  · exact .pure _
  · split
    · exact v.makes_peerGone.mono fun _ => .released
    · refine (v.makes_rearm.mono fun _ => .written).bind fun result => ?_
      cases result with
      | ok => exact .pure _
      | error e => exact v.makes_peerGone.mono fun _ => .released

omit [OperatingSystem κ] in
theorem makes_ifObserved {observed : Bool} {phase : Action κ (VirtualSocket × List Protocol.Event)}
    (h : phase.Makes Serving) : (v.ifObserved observed phase).Makes Serving := by
  unfold ifObserved
  split
  · exact h
  · exact .pure _

theorem makes_handleReady (ready : Interest) :
    Makes (κ := κ) (v.handleReady ctx ready) Serving := by
  refine (makes_ifObserved v v.makes_onError).bind fun failed => ?_
  refine (makes_ifObserved _ failed.1.makes_onWritable).bind fun written => ?_
  refine (makes_ifObserved _ (written.1.makes_onReadable ctx)).bind fun received => ?_
  exact (received.1.makes_onHangup _).bind fun _ => .pure _

end VirtualSocket

end SocketRelay
