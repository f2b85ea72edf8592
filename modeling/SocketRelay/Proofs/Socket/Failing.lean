import Mathlib.Data.List.Forall2
import SocketRelay.Proofs.Socket.Opening
import SocketRelay.Proofs.Socket.Refusal
import SocketRelay.Proofs.Socket.Stream

/-!
# What a failed send leaves behind

A send can fail because it does not fit the socket, because the system refuses the bytes, or because
there is no room in the queue. Then the socket is what it was, and nothing of the data can be sent
later: what the system takes afterwards is a prefix of what waited before and what later sends
bring.

There is one more failure, at the last step. The first bytes that have to wait make the socket
listen for room, and if the system refuses that, the request fails although the bytes are in the
queue. They go out with the next writing like any others.
-/
namespace SocketRelay
open SocketRelay.Action (Ends)

namespace VirtualSocket
open History (taken taken_append)
variable {ctx : SocketContext} {settled steady : Prop} {v v' : VirtualSocket} {r r' : Reactor}
variable {calls : List Exchange} {t : Traffic} {d : Descriptor}

/-- What was taken and what waits are what waited and what was accepted. A socket that has ended
leaves the rest of it unsent. -/
def Tallied (v : VirtualSocket) (calls : List Exchange) (accepted : Bytes) (v' : VirtualSocket) :
    Prop :=
  taken calls ++ v'.outbound = v.outbound ++ accepted ∨
    v'.closed ∧ taken calls <+: v.outbound ++ accepted

theorem Plain.taken_eq {x : Exchange} (hx : Plain x) : taken [x] = [] := by
  obtain ⟨call, answer⟩ := x
  cases call with
  | send d data =>
    cases answer with
    | ok n =>
      have hsent : Exchange.sentTo d ⟨.send d data, .ok n⟩ = data.take n := if_pos rfl
      exact hsent.symm.trans (hx.2 d)
    | error e => rfl
  | _ => rfl

theorem taken_of_plain (hc : ∀ x ∈ calls, Plain x) : taken calls = [] := by
  induction calls with
  | nil => rfl
  | cons x calls ih =>
    obtain ⟨hx, hc⟩ := List.forall_mem_cons.1 hc
    rw [History.taken_cons, ih hc, hx.taken_eq, List.append_nil]

theorem Opening.taken_eq (h : Opening calls) : taken calls = [] := by
  obtain ⟨later, kind, e, rfl, hplain⟩ := h
  rw [taken_append, taken_of_plain hplain]
  rfl

theorem Drained.taken_eq {data rest : Bytes} (h : Drained d data calls rest) :
    taken calls ++ rest = data := by
  induction h with
  | untouched => rfl
  | @sent calls rest n _ _ ih =>
    rw [taken, List.append_assoc, List.take_append_drop, ih]
  | unsent e _ _ ih => exact ih

theorem Ending.taken_prefix {lead : List Exchange} (he : Ending ctx settled v lead t) :
    taken lead <+: v.outbound := by
  cases he with
  | unflushed d _ rest _ _ hr => exact ⟨rest, hr.taken_eq⟩
  | refused | finished => exact List.nil_prefix
  | _ => exact List.nil_prefix

theorem Deed.tallied (h : Deed ctx settled steady v r calls t v' r') :
    Tallied v calls t.accepted v' := by
  have hsame : v'.outbound = v.outbound → taken calls = [] → t.accepted = [] →
      Tallied v calls t.accepted v' := by
    intro hqueue htaken haccepted
    refine .inl ?_
    rw [hqueue, htaken, haccepted, List.nil_append, List.append_nil]
  cases h with
  | bound | rearmed | settled | received => exact hsame rfl rfl rfl
  | idle d x hd hx => exact hsame rfl hx.plain.taken_eq rfl
  | misfired hd hc hm =>
    refine hsame rfl ?_ rfl
    rcases hm.opening with hplain | hopening
    · exact taken_of_plain hplain
    · exact hopening.taken_eq
  | opened d setup hd hc hb hs =>
    exact hsame hb.outbound_eq (opening_of_setup hs ⟨rfl, fun _ => rfl⟩).taken_eq rfl
  | wrote d data n hd hk hs ho =>
    refine .inl ?_
    rw [ho]
    exact List.append_nil _
  | queued d rest => exact .inl rfl
  | queuedFirst d rest hd hk ho =>
    refine .inl ?_
    rw [ho]
    rfl
  | flushed d hd hn hr =>
    refine .inl ?_
    rw [hr.taken_eq]
    exact (List.append_nil _).symm
  | ended hc he hcl =>
    refine .inr ⟨rfl, ?_⟩
    rw [taken_append, taken_of_plain hcl.plain, List.append_nil]
    exact he.taken_prefix.trans (List.prefix_append _ _)

theorem Conduct.tallied {κ : Type} {w w' : World κ} (h : Conduct ctx settled steady v w t v' w') :
    ∃ calls, w'.history = calls ++ w.history ∧ Tallied v calls t.accepted v' := by
  induction h with
  | rest => exact ⟨[], rfl, .inl (List.append_nil _).symm⟩
  | @deed t v₁ w₁ more t' v₂ r w₂ _ hd hw ih =>
    obtain ⟨calls, hh, htallied⟩ := ih
    refine ⟨more ++ calls, by rw [hw.history, hh, List.append_assoc], ?_⟩
    rcases htallied with hbefore | ⟨hclosed, -⟩
    · unfold Tallied
      rw [taken_append, List.append_assoc, Traffic.accepted_append, ← List.append_assoc v.outbound,
        ← hbefore, List.append_assoc (taken calls)]
      rcases hd.tallied with hafter | ⟨hclosed, hprefix⟩
      · exact .inl (congrArg (taken calls ++ ·) hafter)
      · exact .inr ⟨hclosed, (List.prefix_append_right_inj _).2 hprefix⟩
    · rw [hd.open] at hclosed
      cases hclosed

variable {κ : Type} {w w' : World κ} {data : Bytes}

/-- The socket is as it was, and nobody else has noticed: at most, the system was asked to take the
data at once. -/
structure Kept (v : VirtualSocket) (data : Bytes) (w : World κ) (o : Outcome) (w' : World κ) :
    Prop where
  socket : o.socket = v
  events : o.events = []
  reactor : w'.reactor = w.reactor
  mailboxes : w'.mailboxes = w.mailboxes
  calls : w'.history = w.history ∨ ∃ d answer, v.live? = some d ∧
    w'.history = ⟨.send d data, answer⟩ :: w.history

/-- Nothing was waiting. What the system did not take waits now, but the registration was not armed
for it. -/
structure Unarmed (v : VirtualSocket) (data : Bytes) (w : World κ) (o : Outcome) (w' : World κ) :
    Prop where
  idle : v.outbound = []
  queued : ∃ calls n, w'.history = calls ++ w.history ∧ taken calls = data.take n ∧
    n ≠ data.length ∧ o.socket = { v with outbound := data.drop n }
  events : o.events = []
  reactor : w'.reactor = w.reactor
  mailboxes : w'.mailboxes = w.mailboxes

theorem Kept.taken_prefix (h : Kept v data w o w') {calls : List Exchange}
    (hh : w'.history = calls ++ w.history) : taken calls <+: data := by
  rcases h.calls with hsame | ⟨d, answer, -, hcall⟩
  · rw [hh] at hsame
    rw [List.append_left_eq_self.1 hsame]
    exact List.nil_prefix
  · rw [hh, ← List.singleton_append] at hcall
    rw [List.append_cancel_right hcall]
    cases answer with
    | ok n => exact List.take_prefix n data
    | error e => exact List.nil_prefix

variable [OperatingSystem κ]

theorem enqueue_failure {rest : Bytes} (hd : v.descriptor = some d) :
    (v.enqueue ctx rest).Ends w fun o w' => ∀ e, o.result = .error e →
      ((∀ errno, e ≠ .io "epoll_ctl(MOD)" errno) ∧ o.socket = v ∧ o.events = [] ∧ w' = w) ∨
        ∃ errno, e = .io "epoll_ctl(MOD)" errno ∧ v.outbound = [] ∧
          o.socket = { v with outbound := rest } ∧ o.events = [] ∧ Reactor.SetFailed d w w' := by
  unfold enqueue
  dsimp only
  split
  · refine Ends.pure fun e he => .inl ⟨?_, rfl, rfl, rfl⟩
    cases he
    exact nofun
  split
  · rename_i hidle
    have hidle : v.outbound = [] := List.isEmpty_iff.1 hidle
    refine Ends.bind (rearm_ends hd) fun result w' h => Ends.pure fun e he => ?_
    obtain rfl : result = .error e := he
    obtain ⟨⟨errno, rfl⟩, hf⟩ := h
    refine .inr ⟨errno, rfl, hidle, ?_, rfl, hf⟩
    rw [hidle, List.nil_append]
  · exact Ends.pure nofun

omit [OperatingSystem κ] in
theorem setFailed_moves {d : Descriptor} (h : Reactor.SetFailed d w w') : ∃ calls,
    w.Moved calls w.reactor w' ∧ taken calls = [] := by
  rcases h with ⟨-, rfl⟩ | ⟨bits, token, e, hm⟩
  · exact ⟨[], .refl w', rfl⟩
  · exact ⟨_, hm, rfl⟩

/-- A send that fails keeps the socket, unless it fails at the arming. -/
theorem send_failure : (v.send ctx data).Ends w fun o w' => ∀ e, o.result = .error e →
    ((∀ errno, e ≠ .io "epoll_ctl(MOD)" errno) ∧ Kept v data w o w') ∨
      ∃ errno, e = .io "epoll_ctl(MOD)" errno ∧ Unarmed v data w o w' := by
  unfold send
  split
  · refine Ends.pure fun e he => .inl ⟨?_, rfl, rfl, rfl, rfl, .inl rfl⟩
    cases he
    exact nofun
  rename_i hk
  have hk : v.kind = .tcp := Decidable.not_not.1 hk
  split
  · refine Ends.pure fun e he => .inl ⟨?_, rfl, rfl, rfl, rfl, .inl rfl⟩
    cases he
    exact nofun
  rename_i d hd
  refine Ends.bind ((writeNow_conduct ctx True True hd hk).and writeNow_moves) fun result w₁ h => ?_
  obtain ⟨hresult, -, hmoves⟩ := h
  have hkept : w₁.reactor = w.reactor ∧ w₁.mailboxes = w.mailboxes ∧
      (w₁.history = w.history ∨ ∃ d answer, v.live? = some d ∧
        w₁.history = ⟨.send d data, answer⟩ :: w.history) := by
    rcases hmoves with rfl | ⟨answer, hm⟩
    · exact ⟨rfl, rfl, .inl rfl⟩
    · exact ⟨hm.reactor, hm.mailboxes, .inr ⟨d, answer, hd, hm.history⟩⟩
  obtain ⟨hreactor, hmailboxes, hcalls⟩ := hkept
  cases result with
  | error e =>
    obtain ⟨⟨errno, rfl⟩, -⟩ := hresult
    refine Ends.pure fun e he => .inl ⟨fun errno' h => ?_, rfl, rfl, hreactor, hmailboxes, hcalls⟩
    cases he
    simp at h
  | ok n =>
    obtain ⟨calls, hh, htaken, -⟩ := hresult
    dsimp only
    split
    · exact Ends.pure nofun
    rename_i hn
    refine (enqueue_failure (live?_eq_some.1 hd).2).mono fun o w' h e he => ?_
    rcases h e he with ⟨hother, hsocket, hevents, rfl⟩ | ⟨errno, rfl, hidle, hsocket, hevents, hf⟩
    · exact .inl ⟨hother, hsocket, hevents, hreactor, hmailboxes, hcalls⟩
    · obtain ⟨more, hm, hnone⟩ := setFailed_moves hf
      refine .inr ⟨errno, rfl, hidle, ⟨more ++ calls, n, ?_, ?_, hn, hsocket⟩, hevents, ?_, ?_⟩
      · rw [hm.history, hh, List.append_assoc]
      · rw [taken_append, hnone, List.append_nil, htaken]
      · exact hm.reactor.trans hreactor
      · exact hm.mailboxes.trans hmailboxes

/-- The bytes that an operation offers for sending. -/
def Operation.offers : Operation → Bytes
  | .send data => data
  | _ => []

theorem Operation.tallied (ctx : SocketContext) (operation : Operation) (hv : v.closed = false)
    (w : World κ) :
    (operation.run ctx v).Ends w fun o w' => ∃ calls piece, w'.history = calls ++ w.history ∧
      piece <+: operation.offers ∧ Tallied v calls piece o.socket := by
  have hquiet : ∀ {settled steady : Prop} {t : Traffic} {o : Outcome} {w' : World κ},
      t.accepted = [] → Conduct ctx settled steady v w t o.socket w' →
      ∃ calls piece, w'.history = calls ++ w.history ∧ piece <+: operation.offers ∧
        Tallied v calls piece o.socket := by
    intro _ _ t o w' ht h
    obtain ⟨calls, hh, htallied⟩ := h.tallied
    exact ⟨calls, [], hh, List.nil_prefix, ht ▸ htallied⟩
  cases operation with
  | bind port =>
    rw [Operation.run]
    cases hb : v.bind port with
    | ok bound => exact Ends.pure (hquiet rfl (bind_conduct ctx True True hb))
    | error e => exact Ends.pure (hquiet rfl (.rest : Conduct ctx True True v w {} v w))
  | connect address port => exact (connect_conduct ctx True True).mono fun o w' h => hquiet rfl h
  | send data =>
    refine ((send_ends ctx True True).and send_failure).mono fun o w' h => ?_
    obtain ⟨⟨-, hsent⟩, hfailure⟩ := h
    cases hsent with
    | done _ hc | unarmed _ _ _ _ _ _ _ hc =>
      obtain ⟨calls, hh, htallied⟩ := hc.tallied
      exact ⟨calls, data, hh, List.prefix_rfl, htallied⟩
    | limited calls queued limit hr hh hc =>
      obtain ⟨calls', hh', htallied⟩ := hc.tallied
      refine ⟨calls', _, hh', ?_, htallied⟩
      rcases hfailure _ hr with ⟨-, hkept⟩ | ⟨errno, he, -⟩
      · exact hkept.taken_prefix hh
      · cases he
    | refused e _ _ hc => exact hquiet rfl hc
  | sendto address port data => exact (sendto_conduct ctx True True).mono fun o w' h => hquiet rfl h
  | ready events =>
    rw [Operation.run]
    cases hd : v.live? with
    | none =>
      rw [handleReady_of_live?_eq_none ctx hd]
      exact Ends.pure (hquiet rfl (.rest : Conduct ctx True True v w {} v w))
    | some d =>
      refine Ends.bind (handleReady_conduct ctx False hd False.elim) ?_
      intro r w' h
      exact Ends.pure (hquiet rfl h.1)
  | expire now timeout =>
    refine Ends.bind (expireConnect_conduct ctx True True hv) ?_
    intro r w' h
    exact Ends.pure (hquiet rfl h.1)
  | close =>
    refine Ends.bind (close_ending ctx True True hv .wished (.refl w)) ?_
    intro v' w' h
    exact Ends.pure (hquiet rfl h.1)

/-- The bytes that the system takes in some operations, each of them done in a world of its own. -/
def sentLater (ctx : SocketContext) (v : VirtualSocket) : List (Operation × World κ) → Bytes
  | [] => []
  | (operation, w) :: later =>
    let done := operation.run ctx v w
    taken (done.2.history.take (done.2.history.length - w.history.length)) ++
      done.1.socket.sentLater ctx later

theorem sentLater_cons {operation : Operation} {later : List (Operation × World κ)}
    {calls : List Exchange}
    (hh : (operation.run ctx v w).2.history = calls ++ w.history) :
    v.sentLater ctx ((operation, w) :: later) =
      taken calls ++ (operation.run ctx v w).1.socket.sentLater ctx later := by
  rw [sentLater, ← World.eq_take_of_history hh]

/-- What was waiting and what is brought later is all that can be sent later. -/
theorem sentLater_prefix (hv : v.Sound) (hl : v.outbound.length ≤ ctx.settings.sendQueueLimit)
    (later : List (Operation × World κ)) : ∃ pieces : List Bytes,
      List.Forall₂ (fun piece x => piece <+: x.1.offers) pieces later ∧
        v.sentLater ctx later <+: v.outbound ++ pieces.flatten ∧
        (v.closed → v.sentLater ctx later = []) := by
  induction later generalizing v with
  | nil => exact ⟨[], .nil, List.nil_prefix, fun _ => rfl⟩
  | cons x later ih =>
    obtain ⟨operation, w⟩ := x
    obtain ⟨-, hsound, hlimited⟩ := operation.advance hv hl w
    obtain ⟨pieces, hpieces, hprefix, hnothing⟩ := ih hsound hlimited
    cases hc : v.closed with
    | true =>
      obtain ⟨result, hrun, -⟩ := operation.inert ctx hv hc w
      have hhistory : (operation.run ctx v w).2.history = [] ++ w.history := by rw [hrun]; rfl
      have hnone : v.sentLater ctx ((operation, w) :: later) = [] := by
        rw [sentLater_cons hhistory, hnothing (by rw [hrun]; exact hc)]
        rfl
      refine ⟨[] :: pieces, .cons List.nil_prefix hpieces, ?_, fun _ => hnone⟩
      rw [hnone]
      exact List.nil_prefix
    | false =>
      obtain ⟨calls, piece, hh, hpiece, htallied⟩ := operation.tallied ctx hc w
      refine ⟨piece :: pieces, .cons hpiece hpieces, ?_, nofun⟩
      rw [sentLater_cons hh, List.flatten_cons, ← List.append_assoc]
      rcases htallied with hbalance | ⟨hclosed, hcut⟩
      · rw [← hbalance, List.append_assoc]
        exact (List.prefix_append_right_inj _).2 hprefix
      · rw [hnothing hclosed, List.append_nil]
        exact hcut.trans (List.prefix_append _ _)

/-- A send that fails keeps the socket, the reactor and the mailboxes, and nothing that it offered
is sent later; or it fails at the arming, and then what the system did not take waits in the
queue. -/
theorem failed_send_kept (h : Reached κ ctx v) (data : Bytes) (w : World κ) :
    (v.send ctx data).Ends w fun o w' => ∀ e, o.result = .error e →
      ((∀ errno, e ≠ .io "epoll_ctl(MOD)" errno) ∧ Kept v data w o w' ∧
        ∀ later : List (Operation × World κ), ∃ pieces : List Bytes,
          List.Forall₂ (fun piece x => piece <+: x.1.offers) pieces later ∧
            o.socket.sentLater ctx later <+: v.outbound ++ pieces.flatten) ∨
        ∃ errno, e = .io "epoll_ctl(MOD)" errno ∧ Unarmed v data w o w' := by
  refine send_failure.mono fun o w' hfailure e he => ?_
  rcases hfailure e he with ⟨hother, hkept⟩ | hunarmed
  · refine .inl ⟨hother, hkept, fun later => ?_⟩
    obtain ⟨hsound, hlimited⟩ := h.sound
    obtain ⟨pieces, hpieces, hprefix, -⟩ := sentLater_prefix hsound hlimited later
    rw [hkept.socket]
    exact ⟨pieces, hpieces, hprefix⟩
  · exact .inr hunarmed

end VirtualSocket

namespace Loopback
open VirtualSocket (Reached)

/-- A context in which one byte may wait. -/
def queueOfOne : SocketContext := { mailbox := 0, settings := { sendQueueLimit := 1 } }

theorem reached_queueOfOne : Reached Network queueOfOne pendingStream :=
  .after (.connect [127, 0, 0, 1] 23911) listeningWorld (.new 1 .tcp)

/-- Two bytes are too many while the connect is pending. -/
theorem failed_send_kept_queueOfOne :
    Reached Network queueOfOne pendingStream ∧
      (pendingStream.send queueOfOne [104, 105] listeningWorld).1.result =
        .error (.backpressure 1 0 1) ∧
      (pendingStream.send queueOfOne [104, 105]).Ends listeningWorld fun o w' =>
        ∀ e, o.result = .error e →
        ((∀ errno, e ≠ .io "epoll_ctl(MOD)" errno) ∧
          VirtualSocket.Kept pendingStream [104, 105] listeningWorld o w' ∧
          ∀ later : List (VirtualSocket.Operation × World Network), ∃ pieces : List Bytes,
            List.Forall₂ (fun piece x => piece <+: x.1.offers) pieces later ∧
              o.socket.sentLater queueOfOne later <+: pendingStream.outbound ++ pieces.flatten) ∨
          ∃ errno, e = .io "epoll_ctl(MOD)" errno ∧
            VirtualSocket.Unarmed pendingStream [104, 105] listeningWorld o w' :=
  ⟨reached_queueOfOne, by decide +kernel,
    VirtualSocket.failed_send_kept reached_queueOfOne [104, 105] listeningWorld⟩

/-- The connect is under way, and the next arming will fail. -/
def failingRearm : World Network :=
  let connect := VirtualSocket.Operation.connect [127, 0, 0, 1] 23911
  let w := (connect.run standardContext { id := 1, kind := .tcp } listeningWorld).2
  { w with system := { w.system with faults := [⟨.epollModify, ⟨12⟩, 0, 1⟩] } }

/-- Then a send fails, and what it offered is sent at the next room to write all the same. -/
theorem failed_send_delivered : ¬ ∀ (v : VirtualSocket) (data : Bytes) (w : World Network)
    (e : RelayError), Reached Network standardContext v →
      (v.send standardContext data w).1.result = .error e →
      (v.send standardContext data w).1.socket = v ∧
        ∀ later : List (VirtualSocket.Operation × World Network),
          (v.send standardContext data w).1.socket.sentLater standardContext later =
            v.sentLater standardContext later := by
  intro h
  obtain ⟨-, hsame⟩ := h pendingStream [104, 105] failingRearm (.io "epoll_ctl(MOD)" ⟨12⟩)
    reached_pendingStream (by decide +kernel)
  have hsent := hsame [(.ready { write := true },
    (pendingStream.send standardContext [104, 105] failingRearm).2)]
  revert hsent
  decide +kernel

end Loopback

end SocketRelay
