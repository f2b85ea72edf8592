import SocketRelay.Proofs.Arming
import SocketRelay.Proofs.Socket.Operation

/-!
# When a send arms

A send arms the registration of its stream in one case: nothing has been waiting to be written, and
now something does, since the system took less than all of it or the stream is not connected yet.
-/
namespace SocketRelay
open History (SendsWithin)
open SocketRelay.Action (Ends)

namespace VirtualSocket
variable {κ : Type} [OperatingSystem κ] {v : VirtualSocket} {ctx : SocketContext} {w : World κ}

theorem rearm_rearms (v : VirtualSocket) (w : World κ) : v.rearm.Ends w fun _ w' =>
    ∃ calls, w'.history = calls ++ w.history ∧
      ∀ x ∈ calls, ∀ d, x.rearmed? = some d → v.descriptor = some d := by
  unfold rearm
  split
  · rename_i d hd
    refine Reactor.setInterest_ends.mono fun result w' h => ?_
    have hcall : ∀ {bits token answer},
        w'.history = [⟨.epollModify d bits token, answer⟩] ++ w.history →
        ∃ calls, w'.history = calls ++ w.history ∧
          ∀ x ∈ calls, ∀ e, x.rearmed? = some e → v.descriptor = some e := by
      intro bits token answer hh
      refine ⟨_, hh, List.forall_mem_singleton.2 fun e he => ?_⟩
      obtain ⟨bits', token', hx⟩ := Exchange.rearmed?_eq_some he
      cases hx
      exact hd
    cases result with
    | ok =>
      obtain ⟨registration, -, hm⟩ := h
      exact hcall hm.history
    | error e =>
      rcases h.2 with ⟨-, rfl⟩ | ⟨bits, token, errno, hm⟩
      · exact ⟨[], rfl, nofun⟩
      · exact hcall hm.history
  · exact Ends.pure ⟨[], rfl, nofun⟩

theorem enqueue_rearms (rest : Bytes) : (v.enqueue ctx rest).Ends w fun o w' =>
    o.socket.closed = v.closed ∧ ∃ calls, w'.history = calls ++ w.history ∧
      ∀ x ∈ calls, ∀ d, x.rearmed? = some d →
        v.descriptor = some d ∧ v.outbound = [] ∧ o.socket.outbound = rest := by
  unfold enqueue
  dsimp only
  split
  · exact Ends.pure ⟨rfl, [], rfl, nofun⟩
  split
  · rename_i hempty
    have hempty := List.isEmpty_iff.1 hempty
    refine Ends.bind (rearm_rearms _ w) fun result w' h => ?_
    obtain ⟨calls, hh, hd⟩ := h
    refine Ends.pure ⟨rfl, calls, hh, fun x hx d hx' => ⟨hd x hx d hx', hempty, ?_⟩⟩
    rw [hempty, List.nil_append]
  · exact Ends.pure ⟨rfl, [], rfl, nofun⟩

theorem writeNow_within {d : Descriptor} {data : Bytes} :
    (v.writeNow d data).Ends w fun result w' => ∃ calls, w'.history = calls ++ w.history ∧
      (∀ x ∈ calls, x.rearmed? = none) ∧
      ∀ n, result = .ok n → SendsWithin w'.history → n ≤ data.length := by
  have hzero : ∀ {n} {w' : World κ}, (.ok 0 : Except RelayError Nat) = .ok n →
      SendsWithin w'.history → n ≤ data.length := by
    intro n w' hn _
    cases hn
    exact Nat.zero_le _
  unfold writeNow
  split
  · exact Ends.pure ⟨[], rfl, nofun, fun n => hzero⟩
  refine Ends.call fun answer w' hm => ?_
  have hcalls : ∀ x ∈ [Exchange.mk (.send d data) answer], x.rearmed? = none :=
    List.forall_mem_singleton.2 rfl
  cases answer with
  | ok n =>
    refine Ends.pure ⟨_, hm.history, hcalls, fun m hn hwithin => ?_⟩
    cases hn
    rw [hm.history] at hwithin
    exact of_decide_eq_true hwithin.1
  | error e =>
    dsimp only
    split
    · exact Ends.pure ⟨_, hm.history, hcalls, fun n => hzero⟩
    · exact Ends.pure ⟨_, hm.history, hcalls, nofun⟩

/-- A send arms its stream if nothing waited before and something waits now. -/
theorem send_rearms {data : Bytes} : (v.send ctx data).Ends w fun o w' =>
    o.socket.closed = v.closed ∧ ∃ calls, w'.history = calls ++ w.history ∧
      ∀ x ∈ calls, ∀ d, x.rearmed? = some d → v.descriptor = some d ∧ v.outbound = [] ∧
        (SendsWithin w'.history → o.socket.outbound ≠ []) := by
  unfold send
  split
  · exact Ends.pure ⟨rfl, [], rfl, nofun⟩
  split
  · exact Ends.pure ⟨rfl, [], rfl, nofun⟩
  refine Ends.bind writeNow_within fun result w₁ hwrote => ?_
  obtain ⟨calls, hcalls, hnone, hle⟩ := hwrote
  have hunarmed : ∀ x ∈ calls, ∀ d, x.rearmed? ≠ some d := by
    intro x hx d hd
    cases (hnone x hx).symm.trans hd
  cases result with
  | error e => exact Ends.pure ⟨rfl, calls, hcalls, fun x hx d hd => (hunarmed x hx d hd).elim⟩
  | ok written =>
    dsimp only
    split
    · exact Ends.pure ⟨rfl, calls, hcalls, fun x hx d hd => (hunarmed x hx d hd).elim⟩
    rename_i hrest
    refine (enqueue_rearms (data.drop written)).mono fun o w' h => ?_
    obtain ⟨hclosed, more, hmore, hd⟩ := h
    refine ⟨hclosed, more ++ calls, by rw [hmore, hcalls, List.append_assoc], fun x hx d hx' => ?_⟩
    rcases List.mem_append.1 hx with hx | hx
    · obtain ⟨hv, hempty, ho⟩ := hd x hx d hx'
      refine ⟨hv, hempty, fun hwithin => ?_⟩
      rw [hmore] at hwithin
      have hshort := hle written rfl hwithin.of_append
      rw [ho]
      intro hnil
      have hlength := congrArg List.length hnil
      simp only [List.length_drop, List.length_nil] at hlength
      omega
    · exact (hunarmed x hx d hx').elim

end VirtualSocket

end SocketRelay
