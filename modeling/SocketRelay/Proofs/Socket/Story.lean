import SocketRelay.Proofs.Protocol.Message
import SocketRelay.Proofs.Socket.Sound

/-!
# The story that a socket tells

What a socket tells its client follows a small grammar. A stream tells of its connect first, then of
data, then of its end; a failed connect is all that it tells. A datagram socket tells of data and of
its end. `Unfinished` and `Finished` are the two halves of the grammar.

An open socket knows where it stands: a stream that is not connected has told nothing yet. So every
deed carries on the story in one way only, as long as no readiness other than room to write or an
error is handled while a connect is pending.
-/
namespace SocketRelay
open Protocol (Event)
open History (ReadsWithin)

/-- Data for the socket, each time of a length within these bounds. -/
def Delivered (k : SocketId) (least most : Nat) (es : List Event) : Prop :=
  ∀ e ∈ es, ∃ data, e = .recv k data ∧ least ≤ data.length ∧ data.length ≤ most

/-- What a socket of this number and kind may have told while it is there. -/
inductive Unfinished (k : SocketId) (most : Nat) : SocketKind → List Event → Prop
  | silent : Unfinished k most .tcp []
  | stream {es} : Delivered k 1 most es → Unfinished k most .tcp (.connected k true :: es)
  | datagram {es} : Delivered k 0 most es → Unfinished k most .udp es

/-- What a socket has told when it has ended of itself. -/
inductive Finished (k : SocketId) (most : Nat) : SocketKind → List Event → Prop
  | refused : Finished k most .tcp [.connected k false]
  | stream {es} : Delivered k 1 most es →
      Finished k most .tcp (.connected k true :: es ++ [.closed k])
  | datagram {es} : Delivered k 0 most es → Finished k most .udp (es ++ [.closed k])

section
variable {k : SocketId} {least most : Nat} {kind : SocketKind} {es : List Event}

theorem delivered_nil : Delivered k least most [] := nofun

theorem Delivered.snoc (h : Delivered k least most es) {data : Bytes} (hl : least ≤ data.length)
    (hm : data.length ≤ most) : Delivered k least most (es ++ [.recv k data]) := by
  intro e he
  rcases List.mem_append.1 he with he | he
  · exact h e he
  · exact ⟨data, List.mem_singleton.1 he, hl, hm⟩

theorem Delivered.filter (h : Delivered k least most es) (p : Event → Bool) :
    Delivered k least most (es.filter p) := fun e he => h e ((List.mem_filter.1 he).1)

theorem Unfinished.filter (h : Unfinished k most kind es) {p : Event → Bool}
    (hp : ∀ e, e.data? = none → p e) : Unfinished k most kind (es.filter p) := by
  cases h with
  | silent => exact .silent
  | stream hd =>
    rw [List.filter_cons_of_pos (hp _ rfl)]
    exact .stream (hd.filter p)
  | datagram hd => exact .datagram (hd.filter p)

theorem Finished.filter (h : Finished k most kind es) {p : Event → Bool}
    (hp : ∀ e, e.data? = none → p e) : Finished k most kind (es.filter p) := by
  have hclosed : [Event.closed k].filter p = [.closed k] := List.filter_cons_of_pos (hp _ rfl)
  cases h with
  | refused =>
    rw [List.filter_cons_of_pos (hp _ rfl)]
    exact .refused
  | stream hd =>
    rw [List.filter_append, List.filter_cons_of_pos (hp _ rfl), hclosed]
    exact .stream (hd.filter p)
  | datagram hd =>
    rw [List.filter_append, hclosed]
    exact .datagram (hd.filter p)

/-- How often the outcome of a connect is told. -/
def outcomes (es : List Event) : Nat :=
  es.countP fun
    | .connected _ _ => true
    | _ => false

theorem Delivered.outcomes (h : Delivered k least most es) : outcomes es = 0 := by
  refine List.countP_eq_zero.2 fun e he => ?_
  obtain ⟨data, rfl, -⟩ := h e he
  exact nofun

/-- A stream that has told anything has told the outcome of its connect once. -/
theorem Unfinished.outcomes (h : Unfinished k most .tcp es) (hne : es ≠ []) : outcomes es = 1 := by
  cases h with
  | silent => exact (hne rfl).elim
  | stream hd =>
    have hrest := hd.outcomes
    unfold SocketRelay.outcomes at hrest ⊢
    rw [List.countP_cons, hrest]
    rfl

theorem Finished.outcomes (h : Finished k most .tcp es) : outcomes es = 1 := by
  cases h with
  | refused => rfl
  | stream hd =>
    have hrest := hd.outcomes
    unfold SocketRelay.outcomes at hrest ⊢
    rw [List.countP_append, List.countP_cons, hrest]
    rfl

end

namespace VirtualSocket
variable {ctx : SocketContext} {settled steady : Prop} {v v' : VirtualSocket} {r r' : Reactor}
variable {calls : List Exchange} {t : Traffic} {h : History} {most : Nat} {es : List Event}

/-- Where an open socket stands in its story. -/
def Told (most : Nat) (v : VirtualSocket) (es : List Event) : Prop :=
  match v.kind, v.connected with
  | .tcp, false => es = []
  | .tcp, true => ∃ rest, es = .connected v.id true :: rest ∧ Delivered v.id 1 most rest
  | .udp, _ => Delivered v.id 0 most es

/-- A stream with a descriptor has told of its connect, or waits for it. -/
theorem Told.connected (h : v.Told most es) (hk : v.kind = .tcp) (hv : v.connected) :
    ∃ rest, es = .connected v.id true :: rest ∧ Delivered v.id 1 most rest := by
  unfold Told at h
  rwa [hk, hv] at h

theorem Told.silent (h : v.Told most es) (hk : v.kind = .tcp) (hv : v.connected = false) :
    es = [] := by
  unfold Told at h
  rwa [hk, hv] at h

theorem Told.datagram (h : v.Told most es) (hk : v.kind = .udp) : Delivered v.id 0 most es := by
  unfold Told at h
  rwa [hk] at h

theorem Told.unfinished (h : v.Told most es) : Unfinished v.id most v.kind es := by
  cases hk : v.kind with
  | udp => exact .datagram (h.datagram hk)
  | tcp =>
    cases hv : v.connected with
    | false =>
      rw [h.silent hk hv]
      exact .silent
    | true =>
      obtain ⟨rest, rfl, hd⟩ := h.connected hk hv
      exact .stream hd

/-- Only its end can be what the client wishes of a socket. -/
theorem Deed.undismissed (h : Deed ctx settled steady v r calls t v' r') (hc : v'.closed = false) :
    t.dismissed = false := by
  cases h with
  | ended => cases hc
  | _ => rfl

theorem Deed.named (h : Deed ctx settled steady v r calls t v' r') :
    ∀ e ∈ t.events, e.socketId = v.id := by
  cases h with
  | opened d setup hd hc hb =>
    cases hb with
    | connected => exact List.forall_mem_singleton.2 rfl
    | datagram | pending => exact nofun
  | settled | received => exact List.forall_mem_singleton.2 rfl
  | ended hc he =>
    cases he with
    | wished => exact nofun
    | failed | refused | gone | unflushed | finished => exact List.forall_mem_singleton.2 rfl
  | bound | idle | misfired | wrote | queued | queuedFirst | rearmed | flushed => exact nofun

theorem Conduct.named {κ : Type} {w w' : World κ} (h : Conduct ctx settled steady v w t v' w') :
    ∀ e ∈ t.events, e.socketId = v.id := by
  induction h with
  | rest => exact nofun
  | deed hc hd _ ih =>
    intro e he
    rcases List.mem_append.1 he with he | he
    · exact ih e he
    · exact (hd.named e he).trans hc.id_eq

theorem Sound.connected (hv : v.Sound) {d : Descriptor} (hd : v.descriptor = some d)
    (hk : v.kind = .tcp) (hs : v.connectStarted = none) : v.connected := by
  have hheld : v.descriptor ≠ none := by
    rw [hd]
    exact nofun
  exact (hv.stream hk hheld).2 hs

theorem Sound.connecting (hv : v.Sound) (hs : v.isConnecting) :
    v.kind = .tcp ∧ v.connected = false := by
  unfold isConnecting at hs
  have hk : v.kind = .tcp := by
    cases hk : v.kind with
    | tcp => rfl
    | udp =>
      rw [(hv.datagram hk).1] at hs
      cases hs
  refine ⟨hk, Bool.eq_false_iff.2 fun hc => ?_⟩
  have hheld : v.descriptor ≠ none := fun hn => by
    rw [(hv.bare hn).2.1] at hs
    cases hs
  rw [(hv.stream hk hheld).1 hc] at hs
  cases hs

/-- The state of an open stream, by what it waits for and has got. -/
theorem state_of_stream (hk : v.kind = .tcp) (ho : v.closed = false) :
    v.state = if v.isConnecting then .connecting else if v.connected then .connected
      else if v.localPort.isSome then .bound else .unbound := by
  unfold state isConnecting
  rw [hk, ho]
  cases v.connectStarted <;> cases v.connected <;> cases v.localPort <;> rfl

theorem state_eq_connecting (ho : v.closed = false) :
    v.state = .connecting ↔ v.kind = .tcp ∧ v.isConnecting := by
  unfold state isConnecting
  rw [ho, if_neg Bool.false_ne_true]
  by_cases h : v.kind = .tcp ∧ v.connectStarted.isSome
  · rw [if_pos h]
    exact iff_of_true rfl h
  · rw [if_neg h]
    refine iff_of_false (fun hs => ?_) h
    repeat' split at hs
    all_goals cases hs

theorem Sound.state_eq_connected (hv : v.Sound) (hk : v.kind = .tcp) (ho : v.closed = false) :
    v.state = .connected ↔ v.connected := by
  have hnot : v.isConnecting → v.connected = false := fun hs => (hv.connecting hs).2
  rw [state_of_stream hk ho]
  cases hs : v.isConnecting <;> cases hc : v.connected <;> cases v.localPort <;> simp_all

/-- A deed that leaves its socket open carries on the story. -/
theorem Deed.told (hd : Deed ctx True steady v r calls t v' r') (hv : v.Sound)
    (hreads : ReadsWithin (calls ++ h)) (ht : v.Told ctx.settings.recvBuffer es)
    (hc : v'.closed = false) : v'.Told ctx.settings.recvBuffer (es ++ t.events) := by
  cases hd with
  | opened d setup hn ho hb =>
    cases hb with
    | datagram hk | pending now hk =>
      rw [List.append_nil]
      exact ht
    | connected hk =>
      rw [ht.silent hk (hv.bare hn).2.2.1]
      unfold Told
      rw [hk]
      exact ⟨[], rfl, delivered_nil⟩
  | settled d answer hl hconnecting =>
    obtain ⟨hk, hnot⟩ := hv.connecting hconnecting
    rw [ht.silent hk hnot]
    unfold Told
    rw [hk]
    exact ⟨[], rfl, delivered_nil⟩
  | received d data hl hs hne =>
    have hlength : data.length ≤ ctx.settings.recvBuffer := of_decide_eq_true hreads.1
    cases hk : v.kind with
    | udp =>
      unfold Told
      rw [hk]
      exact (ht.datagram hk).snoc (Nat.zero_le _) hlength
    | tcp =>
      have hconnected := hv.connected (live?_eq_some.1 hl).2 hk (hs trivial)
      obtain ⟨rest, rfl, hd⟩ := ht.connected hk hconnected
      unfold Told
      rw [hk, hconnected]
      exact ⟨_, rfl, hd.snoc (List.length_pos_iff.2 (hne hk)) hlength⟩
  | ended => cases hc
  | bound | idle | misfired | wrote | queued | queuedFirst | rearmed | flushed =>
    rw [List.append_nil]
    exact ht

/-- A deed that closes its socket ends the story, if it was not the client's wish. -/
theorem Deed.told_end (hd : Deed ctx True steady v r calls t v' r') (hv : v.Sound)
    (ht : v.Told most es) (hc : v'.closed) :
    if t.dismissed then t.events = [] else Finished v.id most v.kind (es ++ t.events) := by
  obtain ⟨lead, more, -, he, -⟩ := hd.of_closed hd.open hc
  have hlast : ∀ d, v.descriptor = some d → v.connectStarted = none →
      Finished v.id most v.kind (es ++ [.closed v.id]) := by
    intro d hd hs
    cases hk : v.kind with
    | udp => exact .datagram (ht.datagram hk)
    | tcp =>
      obtain ⟨rest, rfl, hrest⟩ := ht.connected hk (hv.connected hd hk hs)
      exact .stream hrest
  have hnever : v.kind = .tcp ∧ v.connected = false →
      Finished v.id most v.kind (es ++ [.connected v.id false]) := by
    intro hsilent
    rw [ht.silent hsilent.1 hsilent.2, hsilent.1]
    exact .refused
  cases he with
  | wished => exact rfl
  | failed hfailed =>
    refine hnever ?_
    rcases hfailed with hconnecting | ⟨hk, hn⟩
    · exact hv.connecting hconnecting
    · exact ⟨hk, (hv.bare hn).2.2.1⟩
  | refused d answer hheld hconnecting => exact hnever (hv.connecting hconnecting)
  | gone d hheld hs => exact hlast d hheld (hs trivial)
  | unflushed d _ rest hheld hs => exact hlast d hheld (hs trivial)
  | finished d hheld hs => exact hlast d hheld (hs trivial)

end VirtualSocket

end SocketRelay
