import SocketRelay.Proofs.Protocol.Message
import SocketRelay.Proofs.Socket.Dealings
import SocketRelay.Proofs.Socket.Operation

/-!
# What a socket reads, and what it tells of it

Every read that yields data is told at once, in an event with just that data. The one exception is a
stream that yields nothing: that is its end, and it is told as such. For a datagram socket an empty
read is an empty datagram, which is told like any other.

`Deed.reading` is the case analysis behind this. `Credited` says that the data told of an open
socket are what was read on its descriptor; every deed of the socket keeps it.
-/
namespace SocketRelay
open Protocol (Event)

/-- The data that a read yielded. -/
def Exchange.received? : Exchange → Option Bytes
  | ⟨.recv _ _, .ok data⟩ => some data
  | _ => none

/-- A call that leaves a datagram socket no choice but to end: a read that failed, other than for
want of data, or a failure to listen again. -/
def Exchange.breaks : Exchange → Bool
  | ⟨.recv _ _, .error e⟩ => !e.wouldBlock
  | ⟨.epollModify _ _ _, .error _⟩ => true
  | _ => false

/-- The data in events, in order. -/
def payloads (es : List Event) : List Bytes := es.filterMap Event.data?

theorem payloads_append (es es' : List Event) :
    payloads (es ++ es') = payloads es ++ payloads es' :=
  List.filterMap_append

/-- The data that are not empty. -/
def substance (reads : List Bytes) : List Bytes := reads.filter fun data => !data.isEmpty

theorem substance_append (a b : List Bytes) : substance (a ++ b) = substance a ++ substance b :=
  List.filter_append ..

namespace History
variable {d : Descriptor} {n : Nat} {calls h : History}

/-- What the reads yielded that succeeded, in order. -/
def readings (h : History) : List Bytes := h.reverse.filterMap Exchange.received?

/-- What the reads on the `n`-th socket of this number yielded that succeeded, in order. -/
def readOn (d : Descriptor) (n : Nat) (h : History) : List Bytes :=
  (dealings d n h).filterMap Exchange.received?

theorem readings_append (calls h : History) :
    readings (calls ++ h) = readings h ++ readings calls := by
  unfold readings
  rw [List.reverse_append, List.filterMap_append]

theorem readings_cons (x : Exchange) (h : History) :
    readings (x :: h) = readings h ++ x.received?.toList := by
  change readings ([x] ++ h) = _
  rw [readings_append]
  unfold readings
  cases hx : x.received? <;> simp [hx]

theorem readings_eq_nil : readings calls = [] ↔ ∀ x ∈ calls, x.received? = none := by
  unfold readings
  rw [List.filterMap_eq_nil_iff]
  simp

theorem ReadsBounded.length_le (hb : ReadsBounded h) {data : Bytes} (hd : data ∈ readings h) :
    data.length ≤ 2147479552 := by
  induction h with
  | nil => cases hd
  | cons x h ih =>
    rw [readings_cons] at hd
    rcases List.mem_append.1 hd with hd | hd
    · exact ih hb.2 hd
    · have hx := hb.1
      rw [Option.mem_toList] at hd
      unfold Exchange.received? at hd
      split at hd
      · cases hd
        exact of_decide_eq_true hx
      · cases hd

theorem readOn_of_openings_lt (hn : openings d h < n) : readOn d n h = [] := by
  unfold readOn
  rw [dealings_of_openings_lt hn]
  rfl

theorem readOn_append (hc : readings calls = []) (d : Descriptor) (n : Nat) (h : History) :
    readOn d n (calls ++ h) = readOn d n h := by
  replace hc := readings_eq_nil.1 hc
  induction calls with
  | nil => rfl
  | cons x calls ih =>
    obtain ⟨hx, hc⟩ := List.forall_mem_cons.1 hc
    rw [← ih hc]
    unfold readOn
    rw [List.cons_append, dealings]
    split
    · rw [List.filterMap_append, List.filterMap_cons_none hx, List.filterMap_nil, List.append_nil]
    · rfl

theorem readOn_recv (d : Descriptor) (size : Nat) (data : Bytes) (h : History) :
    readOn d (openings d h) (⟨.recv d size, .ok data⟩ :: h) =
      readOn d (openings d h) h ++ [data] := by
  unfold readOn
  rw [dealings, if_pos ⟨rfl, rfl⟩, List.filterMap_append]
  rfl

theorem Spared.readOn (hs : Spared d calls h) (n : Nat) :
    readOn d n (calls ++ h) = readOn d n h := by
  unfold History.readOn
  rw [hs.dealings]

theorem openings_lt_of_opened {x : Exchange} (hx : x ∈ calls) (hd : x.opened? = some d)
    (h : History) : openings d h < openings d (calls ++ h) := by
  induction calls with
  | nil => cases hx
  | cons y calls ih =>
    have hle := openings_le_append d calls h
    rw [List.cons_append, openings]
    rcases List.mem_cons.1 hx with rfl | hx
    · rw [if_pos hd]
      omega
    · have hlt := ih hx
      split <;> omega

end History

namespace VirtualSocket
open History (openings readings readOn Past Spared)
variable {ctx : SocketContext} {settled steady : Prop} {v v' : VirtualSocket} {r r' : Reactor}
variable {calls : List Exchange} {t : Traffic} {d : Descriptor} {h : History} {told : List Bytes}

/-- What a deed reads and tells: nothing, some data, or nothing since the stream has ended. -/
inductive Reading (ctx : SocketContext) (v v' : VirtualSocket) (calls : List Exchange)
    (t : Traffic) :
    Prop
  | nothing : readings calls = [] → payloads t.events = [] → Reading ctx v v' calls t
  | data (d data) : v.live? = some d → v' = v →
      calls = [⟨.recv d ctx.settings.recvBuffer, .ok data⟩] → payloads t.events = [data] →
      (v.kind = .tcp → data ≠ []) → Reading ctx v v' calls t
  | finish (d closing) : v.kind = .tcp → v.descriptor = some d → v'.closed →
      calls = closing ++ [⟨.recv d ctx.settings.recvBuffer, .ok []⟩] → readings closing = [] →
      payloads t.events = [] → Reading ctx v v' calls t

theorem Preparing.unread {x : Exchange} (h : Preparing ctx v d x) : x.received? = none := by
  cases h <;> rfl

theorem Idle.yields_nothing {x : Exchange} (h : Idle ctx v d x) : x.received? = none := by
  cases h <;> rfl

theorem Drained.unread {data rest : Bytes} (h : Drained d data calls rest) :
    ∀ x ∈ calls, x.received? = none := by
  induction h with
  | untouched => exact nofun
  | sent n _ _ ih | unsent e _ _ ih => exact List.forall_mem_cons.2 ⟨rfl, ih⟩

theorem Closing.unread {held : Option Descriptor} (h : Closing r held calls r') :
    ∀ x ∈ calls, x.received? = none := by
  cases h with
  | nothing => exact nofun
  | unwatched e => exact List.forall_mem_singleton.2 rfl
  | watched e answer => exact List.forall_mem_cons.2 ⟨rfl, List.forall_mem_singleton.2 rfl⟩

theorem unread_of_setup {x : Exchange} {setup : List Exchange} {kind : SocketKind}
    (hx : x.received? = none) (hs : ∀ y ∈ setup, Preparing ctx v d y) :
    ∀ y ∈ x :: setup ++ [⟨.openSocket kind, .ok d⟩], y.received? = none := by
  intro y hy
  rcases List.mem_append.1 hy with hy | hy
  · rcases List.mem_cons.1 hy with rfl | hy
    · exact hx
    · exact (hs y hy).unread
  · rw [List.mem_singleton.1 hy]
    rfl

theorem Misfire.unread (h : Misfire ctx v r calls r') : ∀ x ∈ calls, x.received? = none := by
  cases h with
  | unopened e => exact List.forall_mem_singleton.2 rfl
  | undone d setup hs => exact unread_of_setup rfl hs
  | unwatched d setup bits token e hs => exact List.forall_mem_cons.2 ⟨rfl, unread_of_setup rfl hs⟩

theorem Deed.reading (hd : Deed ctx settled steady v r calls t v' r') :
    Reading ctx v v' calls t := by
  have hsilent : ∀ {calls : List Exchange} {t : Traffic} {v' : VirtualSocket},
      (∀ x ∈ calls, x.received? = none) → payloads t.events = [] → Reading ctx v v' calls t :=
    fun hc ht => .nothing (History.readings_eq_nil.2 hc) ht
  cases hd with
  | bound | queued => exact hsilent nofun rfl
  | idle d x hl hx => exact hsilent (List.forall_mem_singleton.2 hx.yields_nothing) rfl
  | misfired hn hc hm => exact hsilent hm.unread rfl
  | opened d setup hn hc hb hs =>
    refine hsilent (unread_of_setup rfl hs) ?_
    cases hb <;> rfl
  | wrote | queuedFirst | rearmed | settled => exact hsilent (List.forall_mem_singleton.2 rfl) rfl
  | flushed d hl hn hr => exact hsilent hr.unread rfl
  | received d data hl hs hk => exact .data d data hl rfl rfl rfl hk
  | ended hc he hcl =>
    rename_i lead closing
    have hlead : (∀ x ∈ lead, x.received? = none) → payloads t.events = [] →
        Reading ctx v v.shut (closing ++ lead) t := by
      intro hlead ht
      refine hsilent (fun x hx => ?_) ht
      rcases List.mem_append.1 hx with hx | hx
      · exact hcl.unread x hx
      · exact hlead x hx
    cases he with
    | wished | failed | gone => exact hlead nofun rfl
    | refused => exact hlead (List.forall_mem_singleton.2 rfl) rfl
    | unflushed d lead rest hd hs hr => exact hlead hr.unread rfl
    | finished d hd hs hk =>
      exact .finish d closing hk hd rfl rfl (History.readings_eq_nil.2 hcl.unread) rfl

/-- As far as data go that are not empty, a deed tells just what it reads. -/
theorem Deed.substance_eq (hd : Deed ctx settled steady v r calls t v' r') :
    substance (payloads t.events) = substance (readings calls) := by
  cases hd.reading with
  | nothing hc ht => rw [hc, ht]
  | data d data hl hv hc ht hk => rw [hc, ht]; rfl
  | finish d closing hk hd hc hcalls hclosing ht =>
    rw [hcalls, ht, History.readings_append, hclosing]
    rfl

/-- What a datagram socket reads and what it tells is the same altogether. -/
theorem Deed.payloads_eq (hd : Deed ctx settled steady v r calls t v' r') (hk : v.kind = .udp) :
    payloads t.events = readings calls := by
  cases hd.reading with
  | nothing hc ht => rw [hc, ht]
  | data d data hl hv hc ht => rw [hc, ht]; rfl
  | finish d closing htcp =>
    rw [hk] at htcp
    cases htcp

/-- The data told are what was read on the descriptor; without one, none were. -/
structure Credited (h : History) (v : VirtualSocket) (told : List Bytes) : Prop where
  bare : v.descriptor = none → told = []
  held : ∀ d, v.descriptor = some d → readOn d (openings d h) h = told

/-- A deed that leaves its socket open tells what it reads. -/
theorem Deed.credited (hd : Deed ctx settled steady v r calls t v' r') (hc : Credited h v told)
    (ho : v'.closed = false) : Credited (calls ++ h) v' (told ++ payloads t.events) := by
  cases hd.reading with
  | finish d closing hk hheld hclosed =>
    rw [ho] at hclosed
    cases hclosed
  | data d data hl hv hcalls ht =>
    have hheld := (live?_eq_some.1 hl).2
    subst hv hcalls
    rw [ht]
    constructor
    · intro hn
      rw [hheld] at hn
      cases hn
    · intro e he
      cases hheld.symm.trans he
      rw [hd.openings_of_held hheld h, List.singleton_append, History.readOn_recv, hc.held _ hheld]
  | nothing hcalls ht =>
    rw [ht, List.append_nil]
    constructor
    · intro hn
      cases hheld : v.descriptor with
      | none => exact hc.bare hheld
      | some d =>
        rw [hd.descriptor_eq hheld ho] at hn
        cases hn
    · intro d hheld'
      rw [History.readOn_append hcalls]
      rcases hd.gained hheld' with hheld | ⟨x, hx, hxd⟩
      · rw [hd.openings_of_held hheld h, hc.held d hheld]
      · rw [History.readOn_of_openings_lt (History.openings_lt_of_opened hx hxd h)]
        rcases hd.opening with hopened | ⟨hn, -⟩
        · rw [hopened x hx] at hxd
          cases hxd
        · exact (hc.bare hn).symm

/-- These are all data that were told, and the stream may have ended with a read that yielded
none. -/
def Complete (kind : SocketKind) (read told : List Bytes) : Prop :=
  read = told ∨ kind = .tcp ∧ read = told ++ [[]]

/-- A deed that ends its socket tells what it reads, apart from the end itself. -/
theorem Deed.complete (hd : Deed ctx settled steady v r calls t v' r') (hc : Credited h v told)
    (hheld : v.descriptor = some d) :
    Complete v.kind (readOn d (openings d h) (calls ++ h)) (told ++ payloads t.events) := by
  cases hd.reading with
  | nothing hcalls ht =>
    rw [ht, List.append_nil, History.readOn_append hcalls, hc.held d hheld]
    exact .inl rfl
  | data e data hl hv hcalls ht =>
    cases hheld.symm.trans (live?_eq_some.1 hl).2
    rw [hcalls, ht, List.singleton_append, History.readOn_recv, hc.held d hheld]
    exact .inl rfl
  | finish e closing hk he hclosed hcalls hclosing ht =>
    cases hheld.symm.trans he
    rw [hcalls, ht, List.append_nil, List.append_assoc, History.readOn_append hclosing,
      List.singleton_append, History.readOn_recv, hc.held d hheld]
    exact .inr ⟨hk, rfl⟩

theorem Deed.stream_payloads (hd : Deed ctx settled steady v r calls t v' r') (hk : v.kind = .tcp) :
    [] ∉ payloads t.events := by
  cases hd.reading with
  | nothing hcalls ht | finish d closing htcp hheld hclosed hcalls hclosing ht =>
    rw [ht]
    exact List.not_mem_nil
  | data d data hl hv hcalls ht hne =>
    rw [ht]
    exact fun hmem => hne hk (List.mem_singleton.1 hmem).symm

theorem mem_of_substance_eq {a b : List Bytes} {data : Bytes} (h : substance a = substance b)
    (hd : data ∈ a) : data = [] ∨ data ∈ b := by
  by_cases hempty : data = []
  · exact .inl hempty
  · have hmem : data ∈ substance a := List.mem_filter.2 ⟨hd, by simpa using hempty⟩
    rw [h] at hmem
    exact .inr (List.mem_filter.1 hmem).1

/-- Events with data that were read can be written. -/
theorem fits_of_read {es : List Event} (hs : substance (payloads es) = substance (readings calls))
    (hb : History.ReadsBounded (calls ++ h)) : ∀ e ∈ es, e.fits := by
  intro e he
  refine Event.fits_of_length fun data hdata => ?_
  have hmem : data ∈ payloads es := List.mem_filterMap.2 ⟨e, he, hdata⟩
  rcases mem_of_substance_eq hs hmem with rfl | hread
  · decide
  · have hall : data ∈ readings (calls ++ h) := by
      rw [History.readings_append]
      exact List.mem_append_right _ hread
    have hle := hb.length_le hall
    omega

section
variable {κ : Type} {w w' : World κ}

theorem Conduct.substance_eq (h : Conduct ctx settled steady v w t v' w') :
    ∃ calls, w'.history = calls ++ w.history ∧
      substance (payloads t.events) = substance (readings calls) := by
  induction h with
  | rest => exact ⟨[], rfl, rfl⟩
  | @deed t v' w' calls t' v'' rx w'' _ hd hm ih =>
    obtain ⟨before, hbefore, hsame⟩ := ih
    refine ⟨calls ++ before, by rw [hm.history, hbefore, List.append_assoc], ?_⟩
    rw [Traffic.events_append, payloads_append, substance_append, hsame, hd.substance_eq,
      History.readings_append, substance_append]

theorem Conduct.payloads_eq (h : Conduct ctx settled steady v w t v' w') (hk : v.kind = .udp) :
    ∃ calls, w'.history = calls ++ w.history ∧ payloads t.events = readings calls := by
  induction h with
  | rest => exact ⟨[], rfl, rfl⟩
  | @deed t v' w' calls t' v'' rx w'' hc hd hm ih =>
    obtain ⟨before, hbefore, hsame⟩ := ih
    refine ⟨calls ++ before, by rw [hm.history, hbefore, List.append_assoc], ?_⟩
    rw [Traffic.events_append, payloads_append, hsame, hd.payloads_eq (hc.kind_eq.trans hk),
      History.readings_append]

end

section
open SocketRelay.Action (Ends)
variable {κ : Type} [OperatingSystem κ] {w : World κ}

theorem failConnect_payloads (v : VirtualSocket) :
    v.failConnect.Ends w fun r _ => payloads r.2 = [] := by
  unfold failConnect
  exact Ends.bind (p := fun _ _ => True) trivial fun _ _ _ => Ends.pure rfl

theorem connectFailed_payloads (v : VirtualSocket) (e : RelayError) :
    (v.connectFailed e).Ends w fun o _ => payloads o.events = [] := by
  unfold connectFailed
  exact Ends.bind v.failConnect_payloads fun _ _ h => Ends.pure h

theorem connect_payloads (v : VirtualSocket) {address : Bytes} {port : Port} :
    (v.connect ctx address port).Ends w fun o _ => payloads o.events = [] := by
  have hreal : ∀ (d : Descriptor) (destination : Endpoint4) (w : World κ),
      (v.connectReal ctx d destination).Ends w fun o _ => payloads o.events = [] := by
    intro d destination w
    unfold connectReal
    refine Ends.bind (p := fun _ _ => True) trivial fun answer w₁ _ => ?_
    split
    · exact Ends.bind (p := fun _ _ => True) trivial fun _ _ _ => v.connectFailed_payloads _
    · rename_i status hstatus
      refine Ends.read ?_
      refine Ends.bind (p := fun _ _ => True) trivial fun result w₂ _ => ?_
      cases result with
      | error e => exact connectFailed_payloads _ e
      | ok attached =>
        refine Ends.pure ?_
        cases status <;> rfl
  unfold connect
  split
  · exact Ends.pure rfl
  split
  · exact Ends.pure rfl
  split
  · exact Ends.pure rfl
  split
  · exact Ends.pure rfl
  rename_i destination _
  refine Ends.bind (p := fun _ _ => True) trivial fun result w₁ _ => ?_
  cases result with
  | error e => exact v.connectFailed_payloads e
  | ok d => exact hreal d destination w₁

theorem sendto_payloads (v : VirtualSocket) {address : Bytes} {port : Port} {data : Bytes} :
    (v.sendto ctx address port data).Ends w fun o _ => payloads o.events = [] := by
  unfold sendto
  split
  · exact Ends.pure rfl
  split
  · exact Ends.pure rfl
  split
  · exact Ends.pure rfl
  refine Ends.bind (p := fun _ _ => True) trivial fun result w₁ _ => ?_
  cases result with
  | error e => exact Ends.pure rfl
  | ok opened =>
    dsimp only
    split
    · exact Ends.pure rfl
    · refine Ends.call fun answer w₂ _ => ?_
      cases answer with
      | error e => exact Ends.pure rfl
      | ok n => exact Ends.pure rfl

end

section
open SocketRelay.Action (Ends)
variable {κ : Type} [OperatingSystem κ] {w : World κ}

/-- A phase leaves the socket and the reactor as they are. -/
def Stays (v : VirtualSocket) (w : World κ) (r : VirtualSocket × List Event)
    (w' : World κ) : Prop :=
  r.1 = v ∧ ∃ calls, w.Moved calls w.reactor w'

omit [OperatingSystem κ] in
theorem stays_refl (v : VirtualSocket) (w : World κ) : Stays v w (v, []) w := ⟨rfl, [], .refl w⟩

omit [OperatingSystem κ] in
theorem ends_ifObserved {observed : Bool} {phase : Action κ (VirtualSocket × List Event)}
    {post : VirtualSocket × List Event → World κ → Prop} (h : phase.Ends w post)
    (hnone : post (v, []) w) : (v.ifObserved observed phase).Ends w post := by
  unfold ifObserved
  split
  · exact h
  · exact Ends.pure hnone

theorem onError_stays (hl : v.live? = some d) (hs : v.connectStarted = none) :
    v.onError.Ends w (Stays v w) := by
  unfold onError
  rw [hl]
  refine Ends.bind pendingError_ends ?_
  intro _ w₁ hafter
  obtain ⟨answer, h₁, -⟩ := hafter
  rw [isConnecting, hs]
  exact Ends.pure ⟨rfl, _, h₁⟩

theorem flush_nil (d : Descriptor) : flush (κ := κ) d [] = pure (.ok []) := by
  unfold flush
  rfl

theorem onWritable_stays (hl : v.live? = some d) (hs : v.connectStarted = none)
    (ho : v.outbound = []) : v.onWritable.Ends w (Stays v w) := by
  have hsettle : v.settleConnect (κ := κ) d = pure (v, []) := by
    unfold settleConnect
    rw [isConnecting, hs]
    rfl
  have hsame : { v with outbound := [] } = v := by rw [← ho]
  unfold onWritable
  rw [hl]
  dsimp only
  rw [hsettle, pure_bind]
  unfold flushOutbound
  rw [hl, ho]
  dsimp only
  rw [flush_nil, pure_bind]
  exact Ends.pure ⟨hsame, [], .refl w⟩

/-- Reading leaves a datagram socket as it is, unless the read fails. -/
theorem onReadable_stays (hl : v.live? = some d) (hk : v.kind = .udp) :
    (v.onReadable ctx).Ends w fun r w' => Stays v w r w' ∨
      r.1.closed ∧ ∃ calls, w'.history = calls ++ w.history ∧ ∃ x ∈ calls, x.breaks := by
  unfold onReadable
  rw [hl]
  refine Ends.call fun answer w₁ h₁ => ?_
  cases answer with
  | ok data =>
    dsimp only
    rw [if_neg fun h => by rw [hk] at h; cases h.2]
    exact Ends.pure (.inl ⟨rfl, _, h₁⟩)
  | error e =>
    dsimp only
    split
    · exact Ends.pure (.inl ⟨rfl, _, h₁⟩)
    · rename_i hfailed
      have hbreaks : Exchange.breaks ⟨.recv d ctx.settings.recvBuffer, .error e⟩ := by
        simpa [Exchange.breaks] using hfailed
      refine (peerGone_conduct ctx False False hl (.gone d (live?_eq_some.1 hl).2 False.elim)
        (.refl w₁)).mono ?_
      intro r w' hafter
      obtain ⟨hc, hclosed⟩ := hafter
      obtain ⟨calls, hcalls⟩ := hc.history
      refine .inr ⟨hclosed, calls ++ [_], ?_, _, List.mem_append_right _ (List.mem_singleton.2 rfl),
        hbreaks⟩
      rw [hcalls, h₁.history, List.append_assoc]

/-- The last phase ends a socket at a hangup only, or if the socket cannot be armed. -/
theorem onHangup_stays (ctx : SocketContext) {hangup : Bool} (hl : v.live? = some d) :
    (v.onHangup hangup).Ends w fun r w' => ∃ calls, w'.history = calls ++ w.history ∧
      (r.1 = v ∨ hangup ∨ w.reactor.table.get? d = none ∨ ∃ x ∈ calls, x.breaks) := by
  have hd := (live?_eq_some.1 hl).2
  have hgone : Ending ctx False v [] { events := [.closed v.id] } := .gone d hd False.elim
  unfold onHangup
  rw [hl]
  dsimp only
  split
  · rename_i hh
    refine (peerGone_conduct ctx False False hl hgone (.refl w)).mono fun r w' hafter => ?_
    obtain ⟨calls, hcalls⟩ := hafter.1.history
    exact ⟨calls, hcalls, .inr (.inl hh)⟩
  · refine Ends.bind (rearm_ends hd) fun result w₁ hafter => ?_
    cases result with
    | ok =>
      obtain ⟨registration, -, hm⟩ := hafter
      exact Ends.pure ⟨_, hm.history, .inl rfl⟩
    | error e =>
      obtain ⟨-, hfailed⟩ := hafter
      refine (peerGone_conduct ctx False False hl hgone (.refl w₁)).mono fun r w' hafter => ?_
      obtain ⟨calls, hcalls⟩ := hafter.1.history
      rcases hfailed with ⟨hn, rfl⟩ | ⟨bits, token, errno, hm⟩
      · exact ⟨calls, hcalls, .inr (.inr (.inl hn))⟩
      · refine ⟨calls ++ [_], by rw [hcalls, hm.history, List.append_assoc], ?_⟩
        exact .inr (.inr (.inr ⟨_, List.mem_append_right _ (List.mem_singleton.2 rfl), rfl⟩))

/-- A readiness leaves a datagram socket as it is, unless there was a hangup, a call failed that it
cannot do without, or it was not registered. -/
theorem handleReady_stays (ready : Interest) (hl : v.live? = some d) (hk : v.kind = .udp)
    (hs : v.connectStarted = none) (ho : v.outbound = []) :
    (v.handleReady ctx ready).Ends w fun r w' => ∃ calls, w'.history = calls ++ w.history ∧
      (r.1 = v ∨ ready.hangup ∨ w.reactor.table.get? d = none ∨ ∃ x ∈ calls, x.breaks) := by
  unfold handleReady
  refine Ends.bind (ends_ifObserved (onError_stays hl hs) (stays_refl v w)) ?_
  rintro ⟨v₁, failed⟩ w₁ hafter
  obtain ⟨rfl, calls₁, h₁⟩ : v₁ = v ∧ _ := hafter
  refine Ends.bind (ends_ifObserved (onWritable_stays hl hs ho) (stays_refl v₁ w₁)) ?_
  rintro ⟨v₂, written⟩ w₂ hafter
  obtain ⟨rfl, calls₂, h₂⟩ : v₂ = v₁ ∧ _ := hafter
  have h₂ := h₁.trans h₂
  rw [h₁.reactor] at h₂
  refine Ends.bind (ends_ifObserved (onReadable_stays hl hk) (.inl (stays_refl v₂ w₂))) ?_
  rintro ⟨v₃, received⟩ w₃ hafter
  rcases hafter with ⟨hsame, calls₃, h₃⟩ | ⟨hclosed, calls₃, h₃, hbreaks⟩
  · obtain rfl : v₃ = v₂ := hsame
    have h₃ := h₂.trans h₃
    rw [h₂.reactor] at h₃
    refine Ends.bind (onHangup_stays ctx hl) ?_
    rintro ⟨v₄, ended⟩ w₄ hafter
    obtain ⟨calls₄, h₄, hwhy⟩ := hafter
    rw [h₃.history, ← List.append_assoc] at h₄
    rw [h₃.reactor] at hwhy
    refine Ends.pure ⟨_, h₄, ?_⟩
    rcases hwhy with hsame | hhangup | hnone | ⟨x, hx, hbreaks⟩
    · exact .inl hsame
    · exact .inr (.inl hhangup)
    · exact .inr (.inr (.inl hnone))
    · exact .inr (.inr (.inr ⟨x, List.mem_append_left _ hx, hbreaks⟩))
  · have hlast : v₃.onHangup (κ := κ) ready.hangup = pure (v₃, []) := by
      unfold onHangup
      rw [live?_of_closed hclosed]
    dsimp only
    rw [hlast, pure_bind]
    rw [h₂.history, ← List.append_assoc] at h₃
    obtain ⟨x, hx, hbreaks⟩ := hbreaks
    exact Ends.pure ⟨_, h₃, .inr (.inr (.inr ⟨x, List.mem_append_left _ hx, hbreaks⟩))⟩

/-- In the same readiness what is read is told, be it empty or not. -/
theorem handleReady_datagram (ready : Interest) (hv : v.Sound) (hk : v.kind = .udp)
    (hd : v.descriptor = some d) : (v.handleReady ctx ready).Ends w fun r w' =>
      ∃ calls, w'.history = calls ++ w.history ∧ payloads r.2 = readings calls ∧
        (r.1 = v ∨ ready.hangup ∨ w.reactor.table.get? d = none ∨ ∃ x ∈ calls, x.breaks) := by
  obtain ⟨hs, -, ho⟩ := hv.datagram hk
  have hl : v.live? = some d := by
    refine live?_eq_some.2 ⟨(hv.held ?_).2, hd⟩
    rw [hd]
    exact nofun
  have hread : (v.handleReady ctx ready).Ends w fun r w' =>
      ∃ calls, w'.history = calls ++ w.history ∧ payloads r.2 = readings calls :=
    (handleReady_conduct ctx False hl False.elim).mono fun _ _ h => h.1.payloads_eq hk
  have hstay : (v.handleReady ctx ready).Ends w _ := handleReady_stays ready hl hk hs ho
  obtain ⟨calls, hcalls, hpayloads⟩ := hread
  obtain ⟨calls', hcalls', hwhy⟩ := hstay
  cases List.append_cancel_right (hcalls.symm.trans hcalls')
  exact ⟨calls, hcalls, hpayloads, hwhy⟩

end

end VirtualSocket

end SocketRelay
