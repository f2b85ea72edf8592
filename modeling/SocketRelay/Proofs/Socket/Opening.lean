import SocketRelay.Proofs.Relay.Basic
import SocketRelay.Proofs.Socket.Settling

/-!
# Opening a real socket

Between a virtual socket without a descriptor and one that is registered stand up to five calls, and
each of them may fail. Either all succeed, and the socket has taken over one descriptor with one
registration, or the attempt is undone: what was opened is closed again, nothing is watched, and the
table is what it was. The error names the call that failed.

A stream closes over a failed attempt and tells the client; a datagram socket stays as it was and
says nothing.
-/
namespace SocketRelay
open History (openDescriptors watch?)
open Protocol (Event)
open SocketRelay.Action (Ends)

def Exchange.failure? : Exchange → Option RelayError
  | ⟨.openSocket _, .error e⟩ => some (.io "socket" e)
  | ⟨.setReuseAddress _, .error e⟩ => some (.io "setsockopt" e)
  | ⟨.bindAny _ _, .error e⟩ => some (.io "bind" e)
  | ⟨.connect _ _, .error e⟩ => some (.io "connect" e)
  | ⟨.epollAdd _ _ _, .error e⟩ => some (.io "epoll_ctl(ADD)" e)
  | _ => none

theorem Exchange.failure?_eq_some {x : Exchange} {e : RelayError} (h : x.failure? = some e) :
    ∃ operation errno, e = .io operation errno := by
  unfold failure? at h
  split at h <;> cases h <;> exact ⟨_, _, rfl⟩

/-- The calls leave exactly this descriptor open, and nothing is watched. -/
structure Opened (d : Descriptor) (calls : List Exchange) : Prop where
  descriptors : openDescriptors calls = [d]
  unwatched : ∀ e, watch? e calls = none

namespace Opened
variable {d : Descriptor} {calls : List Exchange}

theorem first (kind : SocketKind) (d : Descriptor) : Opened d [⟨.openSocket kind, .ok d⟩] :=
  ⟨rfl, fun _ => ite_self _⟩

theorem cons {x : Exchange} (h : Opened d calls) (hx : x.Inert) : Opened d (x :: calls) :=
  ⟨(hx calls).1.trans h.descriptors, fun e => ((hx calls).2 e).trans (h.unwatched e)⟩

theorem closed (h : Opened d calls) : openDescriptors (⟨.close d, ()⟩ :: calls) = [] ∧
    ∀ e, watch? e (⟨.close d, ()⟩ :: calls) = none := by
  constructor
  · rw [openDescriptors, h.descriptors]
    simp
  · intro e
    rw [watch?, h.unwatched e, ite_self]

end Opened

/-- An attempt failed with this error, and nothing is left of it. -/
structure Undone {κ : Type} (e : RelayError) (w w' : World κ) : Prop where
  table : w'.reactor.table = w.reactor.table
  mailboxes : w'.mailboxes = w.mailboxes
  calls : ∃ calls, w'.history = calls ++ w.history ∧ openDescriptors calls = [] ∧
    (∀ d, watch? d calls = none) ∧ ∃ x ∈ calls, x.failure? = some e

namespace VirtualSocket
variable {κ : Type} {ctx : SocketContext} {v : VirtualSocket} {w w₁ w' : World κ} {d : Descriptor}
variable {calls : List Exchange}

/-- The socket has got the descriptor with these calls. The descriptor has one registration, for
this socket, with the interest that the socket has now. -/
structure Registered (ctx : SocketContext) (v : VirtualSocket) (d : Descriptor)
    (calls : List Exchange) (w w' : World κ) : Prop where
  descriptor : v.descriptor = some d
  registration : ∃ token, v.token = some token ∧
    w'.reactor.table = w.reactor.table.insert d ⟨token, v.id, v.interest, ctx.mailbox⟩ ∧
    watch? d calls = some ⟨v.interest.toEpoll, token, true⟩
  /-- There is one row more, if the descriptor had none. -/
  single : w.reactor.table.get? d = none → w'.reactor.registered = w.reactor.registered + 1
  descriptors : openDescriptors calls = [d]
  others : ∀ e, e ≠ d → watch? e calls = none
  history : w'.history = calls ++ w.history
  mailboxes : w'.mailboxes = w.mailboxes

theorem undone_of_closed {e : RelayError} {x : Exchange} {r : Reactor} (ho : Opened d calls)
    (hm : w.Moved calls r w₁) (hr : r.table = w.reactor.table) (hx : x ∈ calls)
    (hf : x.failure? = some e) (hc : w₁.Moved [⟨.close d, ()⟩] w₁.reactor w') : Undone e w w' := by
  obtain ⟨hopen, hwatch⟩ := ho.closed
  refine ⟨?_, hc.mailboxes.trans hm.mailboxes, _, ?_, hopen, hwatch, x, ?_, hf⟩
  · rw [hc.reactor, hm.reactor, hr]
  · rw [hc.history, hm.history]
    rfl
  · exact List.mem_cons_of_mem _ hx

theorem moved_next {x : Exchange} {r : Reactor} (h : w.Moved calls r w₁)
    (h' : w₁.Moved [x] w₁.reactor w') : w.Moved (x :: calls) r w' := by
  rw [h.reactor] at h'
  exact h.trans h'

variable [OperatingSystem κ]

theorem discard_undone {operation : String} {e : Errno} {x : Exchange} (ho : Opened d calls)
    (hm : w.Moved calls w.reactor w₁) (hx : x ∈ calls) (hf : x.failure? = some (.io operation e)) :
    (discard d operation e).Ends w₁ fun result w' =>
      result = .error (.io operation e) ∧ Undone (.io operation e) w w' := by
  unfold discard
  exact Ends.call fun _ w' hc => Ends.pure ⟨rfl, undone_of_closed ho hm rfl hx hf hc⟩

/-- An attempt to get a descriptor: it is there, or nothing is left. -/
def Attempted (w : World κ) (result : Except RelayError Descriptor) (w' : World κ) : Prop :=
  match result with
  | .ok d => ∃ calls, w.Moved calls w.reactor w' ∧ Opened d calls
  | .error e => Undone e w w'

theorem allowReuse_attempts {port : Port} (ho : Opened d calls) (hm : w.Moved calls w.reactor w₁) :
    (allowReuse d port).Ends w₁ fun result w' => ∃ calls, w.Moved calls w.reactor w' ∧
      Opened d calls ∧ ∀ e, result = .error e →
        ∃ x ∈ calls, x.failure? = some (.io "setsockopt" e) := by
  unfold allowReuse
  split
  · exact Ends.pure ⟨calls, hm, ho, nofun⟩
  · refine Ends.perform fun answer w' h => ?_
    refine ⟨_, moved_next hm h, ho.cons fun _ => ⟨rfl, fun _ => rfl⟩, fun e he => ?_⟩
    rw [he]
    exact ⟨_, List.mem_cons_self, rfl⟩

theorem createReal_attempts : v.createReal.Ends w (Attempted w) := by
  unfold createReal
  refine Ends.call fun answer w₁ h₁ => ?_
  cases answer with
  | error e =>
    refine Ends.pure ⟨by rw [h₁.reactor], h₁.mailboxes, _, h₁.history, rfl, fun _ => rfl, ?_⟩
    exact ⟨_, List.mem_singleton_self _, rfl⟩
  | ok d =>
    refine Ends.bind (allowReuse_attempts (Opened.first v.kind d) h₁) ?_
    intro reuse w₂ h
    obtain ⟨calls, h₂, ho, hreuse⟩ := h
    cases reuse with
    | error e =>
      obtain ⟨x, hx, hf⟩ := hreuse e rfl
      refine (discard_undone ho h₂ hx hf).mono fun result w' h => ?_
      rw [h.1]
      exact h.2
    | ok =>
      refine Ends.call fun answer w₃ h₃ => ?_
      have hbound := ho.cons (x := ⟨.bindAny d (v.localPort.getD 0), answer⟩)
        fun _ => ⟨rfl, fun _ => rfl⟩
      cases answer with
      | error e =>
        refine (discard_undone hbound (moved_next h₂ h₃) List.mem_cons_self rfl).mono ?_
        intro result w' h
        rw [h.1]
        exact h.2
      | ok => exact Ends.pure ⟨_, moved_next h₂ h₃, hbound⟩

theorem register_failure {socket : SocketId} {mailbox : MailboxId} {interest : Interest} :
    (Reactor.register d socket mailbox interest).Ends w fun result w' => ∀ e, result = .error e →
      ∃ bits token errno, e = .io "epoll_ctl(ADD)" errno ∧
        w.Moved [⟨.epollAdd d bits token, .error errno⟩] w.reactor.advance w' := by
  unfold Reactor.register
  refine Ends.bind (p := fun generation w' => generation = w.reactor.nextGeneration ∧
    w.Moved [] w.reactor.advance w') ⟨rfl, rfl, rfl, rfl, rfl⟩ ?_
  intro _ w₁ hafter
  obtain ⟨rfl, h₁⟩ := hafter
  refine Ends.call fun answer w₂ h₂ => ?_
  cases answer with
  | error errno =>
    refine Ends.pure fun e he => ?_
    cases he
    exact ⟨_, _, errno, rfl, moved_next h₁ h₂⟩
  | ok => exact Ends.bind (p := fun _ _ => True) trivial fun _ _ _ => Ends.pure nofun

/-- Taking over an open descriptor: it is registered, or closed again. -/
theorem attach_attempts {b : VirtualSocket} (ho : Opened d calls)
    (hm : w.Moved calls w.reactor w₁) : (b.attach ctx d).Ends w₁ fun result w' =>
      match result with
      | .ok b' => ∃ token, b' = { b with descriptor := some d, token := some token } ∧
          Registered ctx b' d (⟨.epollAdd d b.interest.toEpoll token, .ok ()⟩ :: calls) w w'
      | .error e => Undone e w w' := by
  unfold attach
  refine Ends.bind (Reactor.register_ends.and register_failure) fun result w₂ h => ?_
  obtain ⟨hends, hfails⟩ := h
  cases result with
  | error e =>
    obtain ⟨bits, token, errno, rfl, h₂⟩ := hfails e rfl
    rw [hm.reactor] at h₂
    have hrefused := ho.cons (x := ⟨.epollAdd d bits token, .error errno⟩)
      fun _ => ⟨rfl, fun _ => rfl⟩
    refine Ends.call fun _ w₃ h₃ => Ends.pure ?_
    exact undone_of_closed hrefused (hm.trans h₂) rfl List.mem_cons_self rfl h₃
  | ok token =>
    obtain ⟨-, h₂⟩ := hends
    rw [hm.reactor] at h₂
    have h := hm.trans h₂
    have htable : w₂.reactor.table =
        w.reactor.table.insert d ⟨token, b.id, b.interest, ctx.mailbox⟩ := by
      rw [h.reactor]
      rfl
    refine Ends.pure ⟨token, rfl, rfl, ⟨token, rfl, htable, if_pos rfl⟩, fun hd => ?_,
      ho.descriptors, ?_, h.history, h.mailboxes⟩
    · unfold Reactor.registered
      rw [htable, Table.size_insert, if_pos hd]
    · intro e he
      rw [watch?, if_neg (Ne.symm he)]
      exact ho.unwatched e

/-- A failed connect closes a socket without descriptor, and makes no call. -/
theorem connectFailed_eq {e : RelayError} (hv : v.closed = false) (hd : v.descriptor = none) :
    v.connectFailed (κ := κ) e =
      pure { socket := v.shut, events := [.connected v.id false], result := .error e } := by
  have hclose : v.close (κ := κ) = pure v.shut := by
    unfold close
    rw [hv, hd]
    rfl
  unfold connectFailed failConnect
  rw [hclose, pure_bind, pure_bind]

/-- How a connect of a stream without descriptor ends. -/
inductive ConnectEnd (ctx : SocketContext) (v : VirtualSocket) (address : Bytes) (port : Port)
    (w : World κ) (o : Outcome) (w' : World κ) : Prop
  | misaddressed : port ≠ nameServicePort → address.length ≠ 4 →
      o = { socket := v, result := .error (.badAddress address.length) } → w' = w →
      ConnectEnd ctx v address port w o w'
  | connected (d token calls destination) :
      resolveDestination address port ctx.settings.resolver = .ok destination →
      ⟨.connect d destination, .ok ()⟩ ∈ calls →
      o = { socket := { v with connected := true, descriptor := some d, token := some token }
            events := [.connected v.id true] } →
      o.socket.state = .connected → o.socket.interest.write = false →
      Registered ctx o.socket d calls w w' → ConnectEnd ctx v address port w o w'
  | pending (d token calls destination e) :
      resolveDestination address port ctx.settings.resolver = .ok destination →
      ⟨.connect d destination, .error e⟩ ∈ calls → e = Errno.inProgress ∨ e = Errno.already →
      o = { socket := { v with
              connectStarted := some w.now, descriptor := some d, token := some token } } →
      o.socket.state = .connecting → o.socket.interest.write →
      Registered ctx o.socket d calls w w' → ConnectEnd ctx v address port w o w'
  | failed (operation errno) :
      o = { socket := v.shut, events := [.connected v.id false]
            result := .error (.io operation errno) } →
      o.socket.state = .closed → Undone (.io operation errno) w w' →
      ConnectEnd ctx v address port w o w'

omit [OperatingSystem κ] in
theorem resolveDestination_error {address : Bytes} {port : Port} {resolver : Endpoint4}
    {e : RelayError} (h : resolveDestination address port resolver = .error e) :
    port ≠ nameServicePort ∧ address.length ≠ 4 ∧ e = .badAddress address.length := by
  unfold resolveDestination at h
  split at h
  · cases h
  · rename_i hport
    split at h
    · cases h
    · rename_i haddress
      cases h
      refine ⟨hport, fun hlength => ?_, rfl⟩
      match address, hlength with
      | [a, b, c, d], _ => cases haddress

omit [OperatingSystem κ] in
theorem answer_of_ofAnswer (answer : Except Errno Unit) :
    match ConnectStatus.ofAnswer answer with
    | .ok .connected => answer = .ok ()
    | .ok .inProgress => ∃ e, answer = .error e ∧ (e = Errno.inProgress ∨ e = Errno.already)
    | .error e => answer = .error e := by
  unfold ConnectStatus.ofAnswer
  cases answer with
  | ok => rfl
  | error e =>
    by_cases he : e = Errno.inProgress ∨ e = Errno.already
    · simp only [he, if_true]
      exact ⟨e, rfl, he⟩
    · simp only [he, if_false]

theorem connectFailed_ends {address : Bytes} {port : Port} {b : VirtualSocket} {e : RelayError}
    (hb : b.shut = v.shut) (hid : b.id = v.id) (hc : b.closed = false) (hd : b.descriptor = none)
    (hu : Undone e w w₁) : (b.connectFailed e).Ends w₁ (ConnectEnd ctx v address port w) := by
  obtain ⟨_, _, _, _, x, _, hf⟩ := hu.calls
  obtain ⟨operation, errno, rfl⟩ := Exchange.failure?_eq_some hf
  rw [connectFailed_eq hc hd, hb, hid]
  exact Ends.pure (.failed operation errno rfl rfl hu)

theorem connectReal_ends {address : Bytes} {port : Port} {destination : Endpoint4}
    (hv : v.Sound) (hk : v.kind = .tcp) (hc : v.closed = false) (hd : v.descriptor = none)
    (hr : resolveDestination address port ctx.settings.resolver = .ok destination)
    (hm : w.Moved calls w.reactor w₁) (ho : Opened d calls) :
    (v.connectReal ctx d destination).Ends w₁ (ConnectEnd ctx v address port w) := by
  obtain ⟨-, hs, hn, hq⟩ := hv.bare hd
  unfold connectReal
  refine Ends.call fun answer w₂ h₂ => ?_
  have hm' := moved_next hm h₂
  have ho' := ho.cons (x := ⟨.connect d destination, answer⟩) fun _ => ⟨rfl, fun _ => rfl⟩
  have hanswer := answer_of_ofAnswer answer
  cases hstatus : ConnectStatus.ofAnswer answer with
  | error e =>
    rw [hstatus] at hanswer
    subst hanswer
    refine Ends.call fun _ w₃ h₃ => connectFailed_ends rfl rfl hc hd ?_
    exact undone_of_closed ho' hm' rfl List.mem_cons_self rfl h₃
  | ok status =>
    refine Ends.read ?_
    -- The flags are set before the registration is tried. If it fails, closing clears them again.
    have hshut : (v.issued w₂.now status).shut = v.shut ∧ (v.issued w₂.now status).id = v.id ∧
        (v.issued w₂.now status).closed = false ∧ (v.issued w₂.now status).descriptor = none := by
      cases status <;> exact ⟨rfl, rfl, hc, hd⟩
    obtain ⟨hshut, hid, hc', hd'⟩ := hshut
    refine Ends.bind (attach_attempts ho' hm') fun result w₃ h₃ => ?_
    cases result with
    | error e => exact connectFailed_ends hshut hid hc' hd' h₃
    | ok b =>
      obtain ⟨token, rfl, hregistered⟩ := h₃
      have hcall := List.mem_cons_of_mem
        ⟨.epollAdd d (v.issued w₂.now status).interest.toEpoll token, .ok ()⟩
        (List.mem_cons_self (a := Exchange.mk (.connect d destination) answer) (l := calls))
      rw [hstatus] at hanswer
      cases status with
      | connected =>
        subst hanswer
        refine Ends.pure (.connected d token _ destination hr hcall rfl ?_ ?_ hregistered)
        · simp [state, issued, hc, hk, hs]
        · simp [interest, isConnecting, issued, hs, hq]
      | inProgress =>
        obtain ⟨e, rfl, he⟩ := hanswer
        rw [hm'.now] at hregistered ⊢
        refine Ends.pure (.pending d token _ destination e hr hcall he rfl ?_ ?_ hregistered)
        · simp [state, issued, hc, hk]
        · simp [interest, isConnecting, issued]

theorem connect_ends {address : Bytes} {port : Port} (hv : v.Sound) (hk : v.kind = .tcp)
    (hc : v.closed = false) (hd : v.descriptor = none) :
    (v.connect ctx address port).Ends w (ConnectEnd ctx v address port w) := by
  have hs : v.isConnecting = false := by simp [isConnecting, (hv.bare hd).2.1]
  unfold connect
  rw [if_neg (by simp [hk]), if_neg (by simp [hs]), if_neg (by simp [hc, hd])]
  split
  · rename_i e hr
    obtain ⟨hport, haddress, rfl⟩ := resolveDestination_error hr
    exact Ends.pure (.misaddressed hport haddress rfl rfl)
  rename_i destination hr
  refine Ends.bind createReal_attempts fun result w₁ h₁ => ?_
  cases result with
  | error e => exact connectFailed_ends rfl rfl hc hd h₁
  | ok d =>
    obtain ⟨calls, hm, ho⟩ := h₁
    exact connectReal_ends hv hk hc hd hr hm ho

/-- How sending a datagram from a socket without descriptor ends. -/
inductive SendtoEnd (ctx : SocketContext) (v : VirtualSocket) (address : Bytes) (port : Port)
    (data : Bytes) (w : World κ) (o : Outcome) (w' : World κ) : Prop
  | ended : v.closed → o = { socket := v, result := .error (.notConnected v.id) } → w' = w →
      SendtoEnd ctx v address port data w o w'
  | misaddressed : port ≠ nameServicePort → address.length ≠ 4 →
      o = { socket := v, result := .error (.badAddress address.length) } → w' = w →
      SendtoEnd ctx v address port data w o w'
  | unopened (operation errno) : o = { socket := v, result := .error (.io operation errno) } →
      Undone (.io operation errno) w w' → SendtoEnd ctx v address port data w o w'
  | opened (d token calls destination w₁ answer) :
      resolveDestination address port ctx.settings.resolver = .ok destination →
      o.socket = { v with descriptor := some d, token := some token } → o.events = [] →
      o.socket.state = .opened → o.socket.interest.write = false →
      Registered ctx o.socket d calls w w₁ →
      w₁.Moved [⟨.sendTo d data destination, answer⟩] w₁.reactor w' →
      (o.result = match answer with
        | .ok _ => .ok ()
        | .error e => .error (.io "sendto" e)) →
      SendtoEnd ctx v address port data w o w'

theorem openDatagram_attempts (hd : v.descriptor = none) :
    (v.openDatagram ctx).Ends w fun result w' =>
      match result with
      | .ok b => ∃ d token calls, b = { v with descriptor := some d, token := some token } ∧
          Registered ctx b d calls w w'
      | .error e => Undone e w w' := by
  unfold openDatagram
  rw [hd]
  refine Ends.bind createReal_attempts fun result w₁ h₁ => ?_
  cases result with
  | error e => exact Ends.pure h₁
  | ok d =>
    obtain ⟨calls, hm, ho⟩ := h₁
    refine (attach_attempts ho hm).mono fun result w₂ h₂ => ?_
    cases result with
    | error e => exact h₂
    | ok b =>
      obtain ⟨token, hb, hregistered⟩ := h₂
      exact ⟨d, token, _, hb, hregistered⟩

theorem sendto_ends {address : Bytes} {port : Port} {data : Bytes} (hv : v.Sound)
    (hk : v.kind = .udp) (hd : v.descriptor = none) :
    (v.sendto ctx address port data).Ends w (SendtoEnd ctx v address port data w) := by
  obtain ⟨-, hs, -, hq⟩ := hv.bare hd
  unfold sendto
  rw [if_neg (by simp [hk])]
  split
  · rename_i hc
    exact Ends.pure (.ended hc rfl rfl)
  rename_i hc
  split
  · rename_i e hr
    obtain ⟨hport, haddress, rfl⟩ := resolveDestination_error hr
    exact Ends.pure (.misaddressed hport haddress rfl rfl)
  rename_i destination hr
  refine Ends.bind (openDatagram_attempts hd) fun result w₁ h₁ => ?_
  cases result with
  | error e =>
    obtain ⟨_, _, _, _, x, _, hf⟩ := h₁.calls
    obtain ⟨operation, errno, rfl⟩ := Exchange.failure?_eq_some hf
    exact Ends.pure (.unopened operation errno rfl h₁)
  | ok b =>
    obtain ⟨d, token, calls, rfl, hregistered⟩ := h₁
    refine Ends.call fun answer w' hm => ?_
    have hstate : ({ v with descriptor := some d, token := some token } : VirtualSocket).state =
        .opened := by simp [state, hk, hc]
    have hwrite : ({ v with descriptor := some d, token := some token } :
        VirtualSocket).interest.write = false := by simp [interest, isConnecting, hs, hq]
    cases answer with
    | ok n =>
      exact Ends.pure (.opened d token calls destination w₁ (.ok n) hr rfl rfl hstate hwrite
        hregistered hm rfl)
    | error e =>
      exact Ends.pure (.opened d token calls destination w₁ (.error e) hr rfl rfl hstate hwrite
        hregistered hm rfl)

/-- What becomes of the real socket behind a virtual one, in the three cases in which it is
decided. -/
structure AllOrNothing (κ : Type) [OperatingSystem κ] (ctx : SocketContext) (v : VirtualSocket) :
    Prop where
  connect : v.kind = .tcp → v.closed = false → v.descriptor = none → ∀ address port (w : World κ),
    (v.connect ctx address port).Ends w (ConnectEnd ctx v address port w)
  settle : v.isConnecting → ∃ d, v.descriptor = some d ∧
    ∀ (operation : Operation) (w : World κ),
      (operation.run ctx v).Ends w (Settlement v d operation w)
  sendto : v.kind = .udp → v.descriptor = none → ∀ address port data (w : World κ),
    (v.sendto ctx address port data).Ends w (SendtoEnd ctx v address port data w)

/-- Whatever the system answers, a socket gets a registered descriptor or none, and a connect that
is pending is decided once. -/
theorem opening_all_or_nothing (h : Reached κ ctx v) : AllOrNothing κ ctx v := by
  have hv := h.sound.1
  refine ⟨fun hk hc hd address port w => connect_ends hv hk hc hd, fun hc => ?_,
    fun hk hd address port data w => sendto_ends hv hk hd⟩
  cases hd : v.descriptor with
  | none => simp [isConnecting, (hv.bare hd).2.1] at hc
  | some d => exact ⟨d, rfl, fun operation w => hv.settlement hd hc operation⟩

end VirtualSocket

namespace Loopback
open VirtualSocket (Reached AllOrNothing)

/-- A context with the standard settings. -/
def standardContext : SocketContext := { mailbox := 0, settings := {} }

/-- The world a session starts in, with a peer that listens on its port. -/
def listeningWorld : World Network := { system := listening, reactor := Reactor.ofMaxEvents 8 }

/-- A stream whose connect to the peer is pending. -/
def pendingStream : VirtualSocket :=
  let connect := VirtualSocket.Operation.connect [127, 0, 0, 1] 23911
  (connect.run standardContext { id := 1, kind := .tcp } listeningWorld).1.socket

theorem reached_pendingStream : Reached Network standardContext pendingStream :=
  .after _ listeningWorld (.new 1 .tcp)

theorem opening_all_or_nothing_pendingStream :
    (Reached Network standardContext { id := 1, kind := .tcp } ∧
      AllOrNothing Network standardContext { id := 1, kind := .tcp }) ∧
    (Reached Network standardContext pendingStream ∧ pendingStream.isConnecting ∧
      AllOrNothing Network standardContext pendingStream) ∧
    Reached Network standardContext { id := 2, kind := .udp } ∧
      AllOrNothing Network standardContext { id := 2, kind := .udp } :=
  ⟨⟨.new 1 .tcp, VirtualSocket.opening_all_or_nothing (.new 1 .tcp)⟩,
    ⟨reached_pendingStream, by decide +kernel,
      VirtualSocket.opening_all_or_nothing reached_pendingStream⟩,
    .new 2 .udp, VirtualSocket.opening_all_or_nothing (.new 2 .udp)⟩

end Loopback

end SocketRelay
