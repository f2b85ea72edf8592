import SocketRelay.Proofs.Socket.Operation
import SocketRelay.Proofs.Socket.Sound

/-!
# The life of a virtual socket

A virtual socket keeps its state in several loose fields. `Represented` says which combinations of
them occur, and `Advance` says what a later state of the same socket has in common with an earlier
one: what is fixed once stays, and the state moves along the stations of its kind.

Both are shown for single deeds, so they hold whatever the system answers, and also where an
operation is broken off half-way. A closed socket does no deeds, so nothing comes after the last
station; `Operation.inert` says what a client gets that asks for more.
-/
namespace SocketRelay
open Protocol (Event)
open SocketRelay.Action (Ends)

/-- The states that a socket of the kind passes, in order. Some may be left out. -/
def SocketKind.stations : SocketKind → List SocketState
  | .tcp => [.unbound, .bound, .connecting, .connected, .closed]
  | .udp => [.unbound, .bound, .opened, .closed]

namespace VirtualSocket
variable {ctx : SocketContext} {settled steady : Prop} {v v' v'' : VirtualSocket}
variable {r r' : Reactor} {calls : List Exchange} {t : Traffic} {limit : Nat}

/-- The fields fit together, and the queue keeps to the limit. -/
structure Represented (limit : Nat) (v : VirtualSocket) : Prop where
  registered : v.descriptor.isSome ↔ v.token.isSome
  /-- A stream has a descriptor if exactly one of its two flags is set. -/
  stream : v.kind = .tcp → (v.descriptor.isSome ↔ v.isConnecting ≠ v.connected)
  datagram : v.kind = .udp → v.isConnecting = false ∧ v.connected = false
  queue : v.outbound ≠ [] → v.kind = .tcp ∧ v.descriptor.isSome
  limited : v.outbound.length ≤ limit
  closed : v.closed →
    v.descriptor = none ∧ v.token = none ∧ v.isConnecting = false ∧ v.outbound = []
  station : v.state ∈ v.kind.stations

theorem state_mem_stations (v : VirtualSocket) : v.state ∈ v.kind.stations := by
  unfold state
  cases v.kind with
  | tcp => cases v.closed <;> cases v.connectStarted <;> cases v.connected <;>
      cases v.localPort <;> simp [SocketKind.stations]
  | udp => cases v.closed <;> cases v.descriptor <;> cases v.localPort <;>
      simp [SocketKind.stations]

theorem Sound.represented (h : v.Sound) (hl : v.outbound.length ≤ limit) : v.Represented limit := by
  cases hd : v.descriptor with
  | none =>
    obtain ⟨htoken, hstarted, hconnected, hqueue⟩ := h.bare hd
    constructor <;> simp_all [isConnecting, state_mem_stations]
  | some d =>
    have hheld : v.descriptor ≠ none := by
      rw [hd]
      exact Option.some_ne_none d
    obtain ⟨htoken, hopen⟩ := h.held hheld
    have hstream := fun hk => h.stream hk hheld
    constructor
    · simp [hd, Option.isSome_iff_ne_none.2 htoken]
    · intro hk
      have hflags := hstream hk
      cases hs : v.connectStarted <;> cases hc : v.connected <;> simp_all [isConnecting]
    · intro hk
      obtain ⟨hs, hc, -⟩ := h.datagram hk
      simp [isConnecting, hs, hc]
    · intro hne
      cases hk : v.kind with
      | tcp => simp [hd]
      | udp => exact absurd (h.datagram hk).2.2 hne
    · exact hl
    · intro hc
      rw [hopen] at hc
      cases hc
    · exact v.state_mem_stations

theorem Drained.length_le {d : Descriptor} {data rest : Bytes} (h : Drained d data calls rest) :
    rest.length ≤ data.length := by
  induction h with
  | untouched => exact Nat.le_refl _
  | sent n _ _ ih =>
    rw [List.length_drop]
    omega
  | unsent e _ _ ih => exact ih

theorem Deed.limited (h : Deed ctx settled steady v r calls t v' r')
    (hl : v.outbound.length ≤ ctx.settings.sendQueueLimit) :
    v'.outbound.length ≤ ctx.settings.sendQueueLimit := by
  cases h with
  | opened d setup _ _ hb => cases hb <;> exact hl
  | queued d rest _ _ _ hq =>
    rw [List.length_append]
    exact hq
  | queuedFirst d rest _ _ _ hq => exact hq
  | flushed d _ _ hr => exact Nat.le_trans hr.length_le hl
  | ended => exact Nat.zero_le _
  | bound | idle | misfired | wrote | rearmed | settled | received => exact hl

/-- How far the socket has come. -/
def position (v : VirtualSocket) : Nat := v.kind.stations.idxOf v.state

/-- A later state of the same socket: what is fixed stays, and the socket has moved on. -/
structure Advance (v v' : VirtualSocket) : Prop where
  id : v'.id = v.id
  kind : v'.kind = v.kind
  port : v.localPort ≠ none → v'.localPort = v.localPort
  /-- No port is named once there is a descriptor. -/
  portHeld : v.descriptor ≠ none → v'.localPort = v.localPort
  descriptor : v.descriptor ≠ none → v'.descriptor = v.descriptor ∨ v'.closed
  token : v.token ≠ none → v'.token = v.token ∨ v'.closed
  onward : v.position ≤ v'.position
  /-- Nothing comes after the end. -/
  final : v.closed → v' = v

theorem Advance.refl (v : VirtualSocket) : Advance v v where
  id := rfl
  kind := rfl
  port _ := rfl
  portHeld _ := rfl
  descriptor _ := .inl rfl
  token _ := .inl rfl
  onward := Nat.le_refl _
  final _ := rfl

theorem Advance.trans (h : Advance v v') (h' : Advance v' v'') : Advance v v'' where
  id := h'.id.trans h.id
  kind := h'.kind.trans h.kind
  port hp := by
    have hfirst := h.port hp
    rw [← hfirst] at hp ⊢
    exact h'.port hp
  portHeld hd := by
    rw [← h.portHeld hd]
    rcases h.descriptor hd with hkept | hclosed
    · apply h'.portHeld
      rwa [hkept]
    · rw [h'.final hclosed]
  descriptor hd := by
    rcases h.descriptor hd with hkept | hclosed
    · rw [← hkept] at hd ⊢
      exact h'.descriptor hd
    · rw [h'.final hclosed]
      exact .inr hclosed
  token ht := by
    rcases h.token ht with hkept | hclosed
    · rw [← hkept] at ht ⊢
      exact h'.token ht
    · rw [h'.final hclosed]
      exact .inr hclosed
  onward := Nat.le_trans h.onward h'.onward
  final hc := by
    have hsame := h.final hc
    rw [hsame] at h'
    exact h'.final hc

theorem position_lt (v : VirtualSocket) : v.position < v.kind.stations.length :=
  List.idxOf_lt_length_of_mem v.state_mem_stations

theorem position_le_shut (v : VirtualSocket) : v.position ≤ v.shut.position := by
  have hlast : v.shut.position + 1 = v.kind.stations.length := by
    unfold position shut state
    cases v.kind <;> rfl
  have := v.position_lt
  omega

theorem Sound.position_bare (h : v.Sound) (hd : v.descriptor = none) (ho : v.closed = false) :
    v.position = if v.localPort.isSome then 1 else 0 := by
  obtain ⟨-, hstarted, hconnected, -⟩ := h.bare hd
  unfold position state
  rw [hd, ho, hstarted, hconnected]
  cases v.kind <;> cases v.localPort <;> rfl

theorem Sound.position_held (h : v.Sound) (hd : v.descriptor ≠ none) :
    v.position = if v.connected then 3 else 2 := by
  obtain ⟨d, hsome⟩ := Option.ne_none_iff_exists'.1 hd
  have hopen := (h.held hd).2
  unfold position state
  cases hk : v.kind with
  | tcp =>
    cases hc : v.connected with
    | true =>
      rw [hopen, (h.stream hk hd).1 hc]
      rfl
    | false =>
      have hpending : v.connectStarted ≠ none := fun hn => by
        rw [(h.stream hk hd).2 hn] at hc
        cases hc
      obtain ⟨started, hs⟩ := Option.ne_none_iff_exists'.1 hpending
      rw [hopen, hs]
      rfl
  | udp =>
    rw [hopen, hsome, (h.datagram hk).2.1]
    rfl

theorem Deed.position_le (h : Deed ctx settled steady v r calls t v' r') (hv : v.Sound) :
    v.position ≤ v'.position := by
  have hafter := h.sound hv
  cases h with
  | bound port hd ho hp =>
    rw [hv.position_bare hd ho, hp]
    exact Nat.zero_le _
  | opened d setup hd ho =>
    rw [hafter.position_held nofun, hv.position_bare hd ho]
    split <;> split <;> omega
  | settled d answer hl =>
    have hheld : v.descriptor ≠ none := by
      rw [(live?_eq_some.1 hl).2]
      exact nofun
    rw [hv.position_held hheld, hafter.position_held hheld]
    split <;> simp
  | ended => exact v.position_le_shut
  | idle | misfired | wrote | queued | queuedFirst | rearmed | flushed | received =>
    exact Nat.le_refl _

/-- A port is named once, and before there is a descriptor. -/
theorem Deed.port_eq (h : Deed ctx settled steady v r calls t v' r')
    (hp : v.localPort ≠ none ∨ v.descriptor ≠ none) : v'.localPort = v.localPort := by
  cases h with
  | bound port hd _ hn =>
    rcases hp with hp | hp
    · exact absurd hn hp
    · exact absurd hd hp
  | opened d setup _ _ hb => cases hb <;> rfl
  | _ => rfl

theorem Deed.holding_eq (h : Deed ctx settled steady v r calls t v' r') (hd : v.descriptor ≠ none) :
    v'.descriptor = v.descriptor ∧ v'.token = v.token ∨ v'.closed := by
  cases h with
  | opened d setup hn => exact absurd hn hd
  | ended => exact .inr rfl
  | _ => exact .inl ⟨rfl, rfl⟩

theorem Deed.advance (h : Deed ctx settled steady v r calls t v' r') (hv : v.Sound) :
    Advance v v' where
  id := h.id_eq
  kind := h.kind_eq
  port hp := h.port_eq (.inl hp)
  portHeld hd := h.port_eq (.inr hd)
  descriptor hd := (h.holding_eq hd).imp_left And.left
  token ht := by
    have hd : v.descriptor ≠ none := fun hn => ht (hv.bare hn).1
    exact (h.holding_eq hd).imp_left And.right
  onward := h.position_le hv
  final hc := by
    rw [h.open] at hc
    cases hc

/-- What a conduct of a sound socket leaves. -/
theorem Conduct.advance {κ : Type} {w w' : World κ} (h : Conduct ctx settled steady v w t v' w')
    (hv : v.Sound) (hl : v.outbound.length ≤ ctx.settings.sendQueueLimit) :
    Advance v v' ∧ v'.Sound ∧ v'.outbound.length ≤ ctx.settings.sendQueueLimit := by
  induction h with
  | rest => exact ⟨.refl v, hv, hl⟩
  | deed _ hd _ ih =>
    obtain ⟨hadvance, hsound, hlimited⟩ := ih
    exact ⟨hadvance.trans (hd.advance hsound), hd.sound hsound, hd.limited hlimited⟩

/-- What can be asked of a socket. -/
inductive Operation where
  | bind (port : Port)
  | connect (address : Bytes) (port : Port)
  | send (data : Bytes)
  | sendto (address : Bytes) (port : Port) (data : Bytes)
  | ready (events : Interest)
  | expire (now timeout : Nat)
  | close

namespace Operation

/-- The client asks for it. -/
def isRequest : Operation → Bool
  | bind _ | connect _ _ | send _ | sendto _ _ _ => true
  | ready _ | expire _ _ | close => false

variable {κ : Type} [OperatingSystem κ]

def run (ctx : SocketContext) (v : VirtualSocket) : Operation → Action κ Outcome
  | bind port =>
    match v.bind port with
    | .ok bound => return { socket := bound }
    | .error e => return { socket := v, result := .error e }
  | connect address port => v.connect ctx address port
  | send data => v.send ctx data
  | sendto address port data => v.sendto ctx address port data
  | ready events => do
    let (s, events) ← v.handleReady ctx events
    return { socket := s, events }
  | expire now timeout => do
    let (s, events, _) ← v.expireConnect now timeout
    return { socket := s, events }
  | close => do return { socket := ← v.close }

/-- Whatever is asked of an open socket, it answers with deeds. -/
theorem conduct (ctx : SocketContext) (operation : Operation) (hv : v.closed = false)
    (w : World κ) :
    (operation.run ctx v).Ends w fun o w' =>
      ∃ settled steady t, Conduct ctx settled steady v w t o.socket w' := by
  cases operation with
  | bind port =>
    rw [run]
    cases hb : v.bind port with
    | ok bound => exact Ends.pure ⟨True, True, _, bind_conduct ctx True True hb⟩
    | error e => exact Ends.pure ⟨True, True, _, .rest⟩
  | connect address port =>
    exact (connect_conduct ctx True True).mono fun o w' h => ⟨True, True, _, h⟩
  | send data =>
    apply (send_ends ctx True True).mono
    intro o w' h
    cases h.2 with
    | done _ hc => exact ⟨True, True, _, hc⟩
    | limited _ _ _ _ _ hc => exact ⟨True, True, _, hc⟩
    | refused _ _ _ hc => exact ⟨True, True, _, hc⟩
    | unarmed _ _ _ _ _ _ _ hc => exact ⟨True, False, _, hc⟩
  | sendto address port data =>
    exact (sendto_conduct ctx True True).mono fun o w' h => ⟨True, True, _, h⟩
  | ready events =>
    rw [run]
    cases hd : v.live? with
    | none =>
      rw [handleReady_of_live?_eq_none ctx hd]
      exact Ends.pure ⟨True, True, _, .rest⟩
    | some d =>
      apply Ends.bind (handleReady_conduct ctx False hd False.elim)
      intro o w' h
      exact Ends.pure ⟨False, False, _, h.1⟩
  | expire now timeout =>
    apply Ends.bind (expireConnect_conduct ctx True True hv)
    intro o w' h
    exact Ends.pure ⟨True, True, _, h.1⟩
  | close =>
    apply Ends.bind (close_ending ctx True True hv .wished (.refl w))
    intro v' w' h
    exact Ends.pure ⟨True, True, _, h.1⟩

/-- Nothing comes of what is asked of a closed socket: a request is refused, anything else is done
already. -/
theorem inert (ctx : SocketContext) (operation : Operation) (hv : v.Sound) (hc : v.closed)
    (w : World κ) :
    ∃ result, operation.run ctx v w = ({ socket := v, result }, w) ∧
      if operation.isRequest then ∃ e, result = .error e else result = .ok () := by
  obtain ⟨-, hstarted, -, -⟩ := hv.bare (hv.released hc)
  cases operation with
  | bind port =>
    refine ⟨.error (.alreadyConnected v.id), ?_, _, rfl⟩
    simp only [run, VirtualSocket.bind, hc, or_true, ↓reduceIte]
    rfl
  | connect address port =>
    cases hk : v.kind with
    | tcp =>
      refine ⟨.error (.alreadyConnected v.id), ?_, _, rfl⟩
      simp only [run, VirtualSocket.connect, hk, ne_eq, not_true_eq_false, ↓reduceIte, isConnecting,
        hstarted, Option.isSome_none, Bool.false_eq_true, hc, or_true]
      rfl
    | udp =>
      refine ⟨.error (.wrongKind "connect" .udp), ?_, _, rfl⟩
      simp only [run, VirtualSocket.connect, hk, ne_eq, reduceCtorEq, not_false_eq_true, ↓reduceIte]
      rfl
  | send data =>
    cases hk : v.kind with
    | tcp =>
      refine ⟨.error (.notConnected v.id), ?_, _, rfl⟩
      simp only [run, VirtualSocket.send, hk, ne_eq, not_true_eq_false, ↓reduceIte, live?, hc]
      rfl
    | udp =>
      refine ⟨.error (.wrongKind "send" .udp), ?_, _, rfl⟩
      simp only [run, VirtualSocket.send, hk, ne_eq, reduceCtorEq, not_false_eq_true, ↓reduceIte]
      rfl
  | sendto address port data =>
    cases hk : v.kind with
    | tcp =>
      refine ⟨.error (.wrongKind "sendto" .tcp), ?_, _, rfl⟩
      simp only [run, VirtualSocket.sendto, hk, ne_eq, reduceCtorEq, not_false_eq_true, ↓reduceIte]
      rfl
    | udp =>
      refine ⟨.error (.notConnected v.id), ?_, _, rfl⟩
      simp only [run, VirtualSocket.sendto, hk, ne_eq, not_true_eq_false, ↓reduceIte, hc]
      rfl
  | ready events =>
    refine ⟨.ok (), ?_, rfl⟩
    rw [run, handleReady_of_live?_eq_none ctx (live?_of_closed hc)]
    rfl
  | expire now timeout =>
    refine ⟨.ok (), ?_, rfl⟩
    simp only [run, expireConnect, hstarted, bind_pure_comp, map_pure]
    rfl
  | close =>
    refine ⟨.ok (), ?_, rfl⟩
    simp only [run, VirtualSocket.close, hc, ↓reduceIte, bind_pure_comp, map_pure]
    rfl

end Operation

/-- The states that a socket can get into, whatever is asked of it and whatever the system
answers. -/
inductive Reached (κ : Type) [OperatingSystem κ] (ctx : SocketContext) : VirtualSocket → Prop
  | new (id : SocketId) (kind : SocketKind) : Reached κ ctx { id, kind }
  | after {v : VirtualSocket} (operation : Operation) (w : World κ) : Reached κ ctx v →
      Reached κ ctx (operation.run ctx v w).1.socket

variable {κ : Type} [OperatingSystem κ]

theorem Operation.advance (operation : Operation) (hv : v.Sound)
    (hl : v.outbound.length ≤ ctx.settings.sendQueueLimit) (w : World κ) :
    Advance v (operation.run ctx v w).1.socket ∧ (operation.run ctx v w).1.socket.Sound ∧
      (operation.run ctx v w).1.socket.outbound.length ≤ ctx.settings.sendQueueLimit := by
  cases hc : v.closed with
  | true =>
    obtain ⟨result, hrun, -⟩ := operation.inert ctx hv hc w
    rw [hrun]
    exact ⟨.refl v, hv, hl⟩
  | false =>
    obtain ⟨settled, steady, t, h⟩ := operation.conduct ctx hc w
    exact h.advance hv hl

theorem Reached.sound (h : Reached κ ctx v) :
    v.Sound ∧ v.outbound.length ≤ ctx.settings.sendQueueLimit := by
  induction h with
  | new id kind => exact ⟨sound_new id kind, Nat.zero_le _⟩
  | after operation w _ ih => exact (operation.advance ih.1 ih.2 w).2

end VirtualSocket

end SocketRelay
