import SocketRelay.Proofs.Socket.Sound

/-!
# The stream of a socket

A TCP socket owes its client a stream: the bytes that it accepted, in order. Part of the stream has
been taken by the system, the rest waits in the queue. `Balanced` says that the two together are the
stream; no deed of the socket disturbs the balance, and no deed of another socket takes part in it.

Descriptor numbers are used again, so a stream is identified by its number together with how often
the system had given that number out. `Past` says that this socket is gone for good.
-/
namespace SocketRelay

namespace History

theorem openings_le_append (d : Descriptor) (calls h : History) :
    openings d h ≤ openings d (calls ++ h) := by
  induction calls with
  | nil => exact Nat.le_refl _
  | cons x calls ih =>
    rw [List.cons_append, openings]
    split
    · exact Nat.le_succ_of_le ih
    · exact ih

theorem sentOn_of_openings_lt {d : Descriptor} {n : Nat} {h : History} (hn : openings d h < n) :
    sentOn d n h = [] := by
  induction h with
  | nil => rfl
  | cons x h ih =>
    have hlt := Nat.lt_of_le_of_lt (openings_le_append d [x] h) hn
    rw [sentOn, if_neg (Nat.ne_of_lt hlt), ih hlt]

theorem sentOn_append {d : Descriptor} {calls : List Exchange} (hc : ∀ x ∈ calls, x.sentTo d = [])
    (n : Nat) (h : History) : sentOn d n (calls ++ h) = sentOn d n h := by
  induction calls with
  | nil => rfl
  | cons x calls ih =>
    obtain ⟨hx, hc⟩ := List.forall_mem_cons.1 hc
    rw [List.cons_append, sentOn, hx, List.append_nil, ite_self, ih hc]

theorem openings_append {d : Descriptor} {calls : List Exchange}
    (hc : ∀ x ∈ calls, x.opened? ≠ some d) (h : History) :
    openings d (calls ++ h) = openings d h := by
  induction calls with
  | nil => rfl
  | cons x calls ih =>
    obtain ⟨hx, hc⟩ := List.forall_mem_cons.1 hc
    rw [List.cons_append, openings, if_neg hx, ih hc]

theorem not_mem_openDescriptors_cons {d : Descriptor} {x : Exchange} {h : History}
    (hx : x.opened? ≠ some d) (hd : d ∉ openDescriptors h) : d ∉ openDescriptors (x :: h) := by
  obtain ⟨call, answer⟩ := x
  cases call with
  | openSocket kind =>
    cases answer with
    | error e => exact hd
    | ok e =>
      have hne : d ≠ e := fun h => hx (congrArg some h.symm)
      exact fun hmem => (List.mem_cons.1 hmem).elim hne hd
  | close e => exact fun hmem => hd (List.mem_filter.1 hmem).1
  | _ => exact hd

/-- The `n`-th socket of this number is gone. -/
def Past (d : Descriptor) (n : Nat) (h : History) : Prop :=
  n < openings d h ∨ openings d h = n ∧ d ∉ openDescriptors h

/-- A number that is not open is open again only after it was given out again. -/
theorem not_mem_openDescriptors {d : Descriptor} {calls h : History}
    (ho : openings d (calls ++ h) = openings d h) (hd : d ∉ openDescriptors h) :
    d ∉ openDescriptors (calls ++ h) := by
  induction calls with
  | nil => exact hd
  | cons x calls ih =>
    have hle := openings_le_append d calls h
    rw [List.cons_append, openings] at ho
    split at ho
    · omega
    · exact not_mem_openDescriptors_cons ‹_› (ih ho)

theorem Past.append {d : Descriptor} {n : Nat} {h : History} (hp : Past d n h) (calls : History) :
    Past d n (calls ++ h) := by
  have hle := openings_le_append d calls h
  rcases hp with hlt | ⟨rfl, hd⟩
  · exact .inl (Nat.lt_of_lt_of_le hlt hle)
  · rcases Nat.eq_or_lt_of_le hle with heq | hlt
    · exact .inr ⟨heq.symm, not_mem_openDescriptors heq.symm hd⟩
    · exact .inl hlt

end History

namespace VirtualSocket
open History (OpensFresh openDescriptors openings sentOn Past)
variable {ctx : SocketContext} {settled steady : Prop} {v v' : VirtualSocket} {r r' : Reactor}
variable {calls : List Exchange} {t : Traffic} {d : Descriptor} {h : History} {stream : Bytes}

/-- A call that opens no descriptor and sends on none. -/
def Plain (x : Exchange) : Prop := x.opened? = none ∧ ∀ d, x.sentTo d = []

theorem Preparing.plain {x : Exchange} (h : Preparing ctx v d x) : Plain x := by
  cases h <;> exact ⟨rfl, fun _ => rfl⟩

theorem Idle.plain {x : Exchange} (h : Idle ctx v d x) : Plain x := by
  cases h <;> exact ⟨rfl, fun _ => rfl⟩

theorem Closing.plain {held : Option Descriptor} (h : Closing r held calls r') :
    ∀ x ∈ calls, Plain x := by
  have hclose : ∀ e, Plain ⟨.close e, ()⟩ := fun e => ⟨rfl, fun _ => rfl⟩
  cases h with
  | nothing => exact nofun
  | unwatched e => exact List.forall_mem_singleton.2 (hclose e)
  | watched e answer =>
    exact List.forall_mem_cons.2 ⟨hclose e, List.forall_mem_singleton.2 ⟨rfl, fun _ => rfl⟩⟩

theorem Drained.opened {data rest : Bytes} (h : Drained d data calls rest) :
    ∀ x ∈ calls, x.opened? = none := by
  induction h with
  | untouched => exact nofun
  | sent n _ _ ih => exact List.forall_mem_cons.2 ⟨rfl, ih⟩
  | unsent e _ _ ih => exact List.forall_mem_cons.2 ⟨rfl, ih⟩

theorem Ending.opened (h : Ending ctx settled v calls t) : ∀ x ∈ calls, x.opened? = none := by
  cases h with
  | unflushed e _ rest he _ hr => exact hr.opened
  | refused e | finished e => exact List.forall_mem_singleton.2 rfl
  | _ => exact nofun

/-- Calls that open one fresh descriptor and then deal with it. -/
def Opening (calls : List Exchange) : Prop :=
  ∃ later kind e, calls = later ++ [⟨.openSocket kind, .ok e⟩] ∧ ∀ x ∈ later, Plain x

theorem opening_of_setup {setup : List Exchange} {x : Exchange}
    (hs : ∀ y ∈ setup, Preparing ctx v d y) (hx : Plain x) :
    Opening (x :: setup ++ [⟨.openSocket v.kind, .ok d⟩]) :=
  ⟨_, v.kind, d, rfl, List.forall_mem_cons.2 ⟨hx, fun y hy => (hs y hy).plain⟩⟩

theorem Misfire.opening (h : Misfire ctx v r calls r') :
    (∀ x ∈ calls, Plain x) ∨ Opening calls := by
  cases h with
  | unopened e => exact .inl (List.forall_mem_singleton.2 ⟨rfl, fun _ => rfl⟩)
  | undone e setup hs => exact .inr (opening_of_setup hs ⟨rfl, fun _ => rfl⟩)
  | unwatched e setup bits token error hs =>
    refine .inr ⟨_, v.kind, e, rfl, ?_⟩
    exact List.forall_mem_cons.2 ⟨⟨rfl, fun _ => rfl⟩,
      List.forall_mem_cons.2 ⟨⟨rfl, fun _ => rfl⟩, fun x hx => (hs x hx).plain⟩⟩

theorem Deed.opening (hd : Deed ctx settled steady v r calls t v' r') :
    (∀ x ∈ calls, x.opened? = none) ∨ v.descriptor = none ∧ Opening calls := by
  cases hd with
  | bound | queued => exact .inl nofun
  | idle e x he hx => exact .inl (List.forall_mem_singleton.2 hx.plain.1)
  | misfired hn hc hm =>
    rcases hm.opening with hplain | hopening
    · exact .inl fun x hx => (hplain x hx).1
    · exact .inr ⟨hn, hopening⟩
  | opened e setup hn hc hb hs =>
    exact .inr ⟨hn, opening_of_setup hs ⟨rfl, fun _ => rfl⟩⟩
  | wrote | queuedFirst | rearmed | settled | received =>
    exact .inl (List.forall_mem_singleton.2 rfl)
  | flushed e he hn hr => exact .inl hr.opened
  | ended hc he hcl =>
    refine .inl fun x hx => ?_
    rcases List.mem_append.1 hx with hx | hx
    · exact (hcl.plain x hx).1
    · exact he.opened x hx

theorem Deed.openings_of_held (hd : Deed ctx settled steady v r calls t v' r')
    (hheld : v.descriptor = some d) (h : History) : openings d (calls ++ h) = openings d h := by
  rcases hd.opening with hopened | ⟨hn, -⟩
  · exact History.openings_append (fun x hx => by rw [hopened x hx]; exact nofun) h
  · rw [hn] at hheld
    cases hheld

theorem Deed.openings_eq (hd : Deed ctx settled steady v r calls t v' r')
    (ho : d ∈ openDescriptors h) (hf : OpensFresh (calls ++ h)) :
    openings d (calls ++ h) = openings d h := by
  refine History.openings_append (fun x hx => ?_) h
  rcases hd.opening with hplain | ⟨-, later, kind, e, rfl, hplain⟩
  · rw [hplain x hx]
    exact nofun
  · rcases List.mem_append.1 hx with hx | hx
    · rw [(hplain x hx).1]
      exact nofun
    · rw [List.append_assoc] at hf
      have hfresh := History.fresh_of_opensFresh later hf
      rw [List.mem_singleton.1 hx]
      intro hed
      exact hfresh (Option.some.inj hed ▸ ho)

/-- What the system took and what waits make up the stream; without a descriptor it is empty. -/
structure Balanced (h : History) (v : VirtualSocket) (stream : Bytes) : Prop where
  bare : v.descriptor = none → v.outbound = [] ∧ stream = []
  held : ∀ d, v.descriptor = some d → sentOn d (openings d h) h ++ v.outbound = stream

theorem Drained.balanced {data rest : Bytes} (hd : Drained d data calls rest) (h : History) :
    openings d (calls ++ h) = openings d h ∧
      sentOn d (openings d h) (calls ++ h) ++ rest = sentOn d (openings d h) h ++ data := by
  induction hd with
  | untouched => exact ⟨rfl, rfl⟩
  | @sent calls rest n _ _ ih =>
    obtain ⟨ho, hs⟩ := ih
    refine ⟨ho, ?_⟩
    have htaken : Exchange.sentTo d ⟨.send d rest, .ok n⟩ = rest.take n := if_pos rfl
    rw [List.cons_append, sentOn, if_pos ho, htaken, List.append_assoc, List.take_append_drop, hs]
  | @unsent calls rest e _ _ ih =>
    obtain ⟨ho, hs⟩ := ih
    refine ⟨ho, ?_⟩
    have htaken : Exchange.sentTo d ⟨.send d rest, .error e⟩ = [] := rfl
    rw [List.cons_append, sentOn, if_pos ho, htaken, List.append_nil, hs]

theorem Deed.descriptor_eq (hd : Deed ctx settled steady v r calls t v' r')
    (hv : v.descriptor = some d) (hc : v'.closed = false) : v'.descriptor = some d := by
  cases hd with
  | opened e setup hn =>
    rw [hn] at hv
    cases hv
  | ended => cases hc
  | _ => exact hv

theorem Balanced.of_held {h' : History} {rest stream' : Bytes} (hd : v.descriptor = some d)
    (hs : sentOn d (openings d h') h' ++ rest = stream') :
    Balanced h' { v with outbound := rest } stream' := by
  constructor
  · intro hn
    rw [hd] at hn
    cases hn
  · intro e he
    cases hd.symm.trans he
    exact hs

theorem Balanced.plain (hb : Balanced h v stream) (hc : ∀ x ∈ calls, Plain x) :
    Balanced (calls ++ h) v stream := by
  refine ⟨hb.bare, fun d hd => ?_⟩
  rw [History.openings_append (fun x hx => by rw [(hc x hx).1]; exact nofun),
    History.sentOn_append fun x hx => (hc x hx).2 d]
  exact hb.held d hd

theorem Begun.outbound_eq {b : VirtualSocket} {events : List Protocol.Event}
    (h : Begun v b events) : b.outbound = v.outbound := by
  cases h <;> rfl

theorem balanced_of_opening {later : List Exchange} {kind : SocketKind}
    (hplain : ∀ x ∈ later, Plain x) (hd : v.descriptor = some d) (hout : v.outbound = []) :
    Balanced (later ++ [⟨.openSocket kind, .ok d⟩] ++ h) v [] := by
  have ho : openings d (later ++ [⟨.openSocket kind, .ok d⟩] ++ h) = openings d h + 1 := by
    rw [List.append_assoc,
      History.openings_append fun x hx => by rw [(hplain x hx).1]; exact nofun]
    exact if_pos rfl
  have hsent : sentOn d (openings d h + 1) (later ++ [⟨.openSocket kind, .ok d⟩] ++ h) = [] := by
    rw [List.append_assoc, History.sentOn_append fun x hx => (hplain x hx).2 d,
      List.singleton_append, sentOn, if_neg (Nat.ne_of_lt (Nat.lt_succ_self _))]
    exact History.sentOn_of_openings_lt (Nat.lt_succ_self _)
  constructor
  · intro hn
    rw [hd] at hn
    cases hn
  · intro e he
    cases hd.symm.trans he
    rw [ho, hsent, hout]
    rfl

/-- A deed that leaves its socket open keeps the balance. -/
theorem Deed.balanced (hd : Deed ctx settled steady v r calls t v' r')
    (hb : Balanced h v stream) (hc : v'.closed = false) :
    Balanced (calls ++ h) v' (stream ++ t.accepted) := by
  cases hd with
  | bound port hn =>
    rw [List.append_nil]
    exact ⟨hb.bare, hb.held⟩
  | idle e x he hx =>
    rw [List.append_nil]
    exact hb.plain (List.forall_mem_singleton.2 hx.plain)
  | misfired hn hv hm =>
    rw [List.append_nil]
    refine ⟨hb.bare, fun e he => ?_⟩
    rw [hn] at he
    cases he
  | opened e setup hn hv hbegun hs =>
    obtain ⟨hout, rfl⟩ := hb.bare hn
    exact balanced_of_opening (List.forall_mem_cons.2
      ⟨⟨rfl, fun _ => rfl⟩, fun x hx => (hs x hx).plain⟩) rfl (hbegun.outbound_eq.trans hout)
  | wrote e data n he hk hs hout =>
    have hv := (live?_eq_some.1 he).2
    refine .of_held hv ?_
    have hheld := hb.held e hv
    rw [hout, List.append_nil] at hheld ⊢
    have ho : openings e ([⟨.send e data, .ok n⟩] ++ h) = openings e h := rfl
    have htaken : Exchange.sentTo e ⟨.send e data, .ok n⟩ = data.take n := if_pos rfl
    rw [ho, List.singleton_append, sentOn, if_pos rfl, htaken, hheld]
  | queued e rest he =>
    have hv := (live?_eq_some.1 he).2
    refine .of_held hv ?_
    rw [List.nil_append, ← List.append_assoc, hb.held e hv]
  | queuedFirst e rest he hk hout =>
    have hv := (live?_eq_some.1 he).2
    refine .of_held hv ?_
    have hheld := hb.held e hv
    rw [hout, List.append_nil] at hheld
    rw [List.singleton_append, History.openings, if_neg nofun, sentOn, if_pos rfl, hheld]
    exact congrArg (· ++ rest) (List.append_nil stream)
  | rearmed e | received e =>
    rw [List.append_nil]
    exact hb.plain (List.forall_mem_singleton.2 ⟨rfl, fun _ => rfl⟩)
  | flushed e he hn hr =>
    have hv := (live?_eq_some.1 he).2
    refine .of_held hv ?_
    obtain ⟨ho, hs⟩ := hr.balanced h
    rw [ho, hs, hb.held e hv, List.append_nil]
  | settled e answer he =>
    rw [List.append_nil]
    have hplain : Plain ⟨.takeError e, answer⟩ := ⟨rfl, fun _ => rfl⟩
    have hsame := hb.plain (List.forall_mem_singleton.2 hplain)
    exact ⟨hsame.bare, hsame.held⟩
  | ended => cases hc

/-- When a socket ends, what the system took of its stream is a prefix of it. -/
theorem Ending.sent_prefix {lead : List Exchange} (he : Ending ctx settled v lead t)
    (hb : Balanced h v stream) (hv : v.descriptor = some d) :
    sentOn d (openings d h) (lead ++ h) <+: stream := by
  have hheld := hb.held d hv
  cases he with
  | unflushed e _ rest he _ hr =>
    cases hv.symm.trans he
    obtain ⟨-, hs⟩ := hr.balanced h
    exact ⟨rest, hs.trans hheld⟩
  | refused e | finished e =>
    refine ⟨v.outbound, ?_⟩
    rw [History.sentOn_append (List.forall_mem_singleton.2 rfl)]
    exact hheld
  | _ => exact ⟨v.outbound, hheld⟩

theorem Closing.not_mem_openDescriptors (hcl : Closing r (some d) calls r') (h : History) :
    d ∉ openDescriptors (calls ++ h) := by
  cases hcl with
  | unwatched => exact fun hmem => by simpa using (List.mem_filter.1 hmem).2
  | watched => exact fun hmem => by simpa using (List.mem_filter.1 hmem).2

theorem Deed.past (hd : Deed ctx settled steady v r calls t v' r') (hv : v.closed = false)
    (hc : v'.closed) (hheld : v.descriptor = some d) : Past d (openings d h) (calls ++ h) := by
  obtain ⟨lead, more, rfl, he, hcl⟩ := hd.of_closed hv hc
  rw [hheld] at hcl
  rw [List.append_assoc]
  refine .inr ⟨?_, hcl.not_mem_openDescriptors _⟩
  rw [History.openings_append fun x hx => by rw [(hcl.plain x hx).1]; exact nofun,
    History.openings_append fun x hx => by rw [he.opened x hx]; exact nofun]

/-- The stream of a socket that ended was cut off. -/
theorem Deed.cut_off (hd : Deed ctx settled steady v r calls t v' r') (hb : Balanced h v stream)
    (hv : v.closed = false) (hc : v'.closed) (hheld : v.descriptor = some d) :
    sentOn d (openings d h) (calls ++ h) <+: stream ++ t.accepted := by
  obtain ⟨lead, more, rfl, he, hcl⟩ := hd.of_closed hv hc
  rw [List.append_assoc, History.sentOn_append fun x hx => (hcl.plain x hx).2 d]
  exact (he.sent_prefix hb hheld).trans (List.prefix_append _ _)

end VirtualSocket

end SocketRelay
