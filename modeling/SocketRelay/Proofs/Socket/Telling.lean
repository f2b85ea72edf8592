import SocketRelay.Proofs.Socket.Settling

/-!
# The events of one readiness

At most one event of each kind comes of a readiness: first what has become of a pending connect,
then data, then the end. Each phase has its own, and tells the end only if it closes the socket, so
nothing comes after it.
-/
namespace SocketRelay
open Protocol (Event)
open SocketRelay.Action (Ends)

namespace VirtualSocket
variable {κ : Type} [OperatingSystem κ] {ctx : SocketContext} {v : VirtualSocket} {w : World κ}
variable {lasting final : List Event} {r : VirtualSocket × List Event}

/-- What a phase tells at most: these events if the socket stays open, those if it has ended. -/
def Tells (v : VirtualSocket) (lasting final : List Event)
    (r : VirtualSocket × List Event) : Prop :=
  r.1.id = v.id ∧ (r.2.Sublist lasting ∨ r.1.closed ∧ r.2.Sublist final)

omit [OperatingSystem κ] in
theorem tells_nothing : Tells v lasting final (v, []) := ⟨rfl, .inl (List.nil_sublist _)⟩

theorem close_id : v.close.Ends w fun v' _ => v'.id = v.id ∧ v'.closed := by
  cases hv : v.closed with
  | true =>
    unfold close
    rw [if_pos hv]
    exact Ends.pure ⟨rfl, hv⟩
  | false =>
    refine (close_ends hv).mono fun v' w' h => ?_
    rw [h.1]
    exact ⟨rfl, rfl⟩

theorem failConnect_tells :
    v.failConnect.Ends w fun r _ => Tells v lasting [.connected v.id false] r :=
  Ends.bind close_id fun _ _ h => Ends.pure ⟨h.1, .inr ⟨h.2, .refl _⟩⟩

theorem peerGone_tells : v.peerGone.Ends w fun r _ => Tells v lasting [.closed v.id] r := by
  unfold peerGone
  split
  · exact Ends.pure tells_nothing
  · exact Ends.bind close_id fun _ _ h => Ends.pure ⟨h.1, .inr ⟨h.2, .refl _⟩⟩

theorem onError_tells : v.onError.Ends w fun r _ => Tells v [] [.connected v.id false] r := by
  unfold onError
  split
  · exact Ends.pure tells_nothing
  · refine Ends.bind (p := fun _ _ => True) trivial fun _ w₁ _ => ?_
    split
    · exact failConnect_tells
    · exact Ends.pure tells_nothing

theorem settleConnect_tells {d : Descriptor} : (v.settleConnect d).Ends w fun r _ =>
    r.1.id = v.id ∧ ∃ success, r.2.Sublist [.connected v.id success] := by
  unfold settleConnect
  split
  · refine Ends.bind (p := fun _ _ => True) trivial fun pending w₁ _ => ?_
    cases pending with
    | some e =>
      exact Ends.bind close_id fun _ _ h => Ends.pure ⟨h.1, false, .refl _⟩
    | none => exact Ends.pure ⟨rfl, true, .refl _⟩
  · exact Ends.pure ⟨rfl, true, List.nil_sublist _⟩

theorem flushOutbound_tells :
    v.flushOutbound.Ends w fun r _ => Tells v [] [.closed v.id] r := by
  unfold flushOutbound
  split
  · exact Ends.pure tells_nothing
  · refine Ends.bind (p := fun _ _ => True) trivial fun result w₁ _ => ?_
    cases result with
    | ok rest => exact Ends.pure ⟨rfl, .inl (.refl _)⟩
    | error e => exact peerGone_tells

theorem onWritable_tells : v.onWritable.Ends w fun r _ => ∃ success,
    Tells v [.connected v.id success] [.connected v.id success, .closed v.id] r := by
  unfold onWritable
  split
  · exact Ends.pure ⟨true, tells_nothing⟩
  · refine Ends.bind settleConnect_tells ?_
    rintro ⟨v₁, settled⟩ w₁ ⟨hid, success, hsettled⟩
    refine Ends.bind flushOutbound_tells ?_
    rintro ⟨v₂, flushed⟩ w₂ ⟨hid', hflushed⟩
    refine Ends.pure ⟨success, hid'.trans hid, hflushed.imp (fun h => ?_) fun h => ⟨h.1, ?_⟩⟩
    · exact hsettled.append h
    · have hend : flushed.Sublist [.closed v.id] := hid ▸ h.2
      exact hsettled.append hend

theorem onReadable_tells : (v.onReadable ctx).Ends w fun r _ => ∃ data,
    Tells v [.recv v.id data] [.closed v.id] r := by
  unfold onReadable
  split
  · exact Ends.pure ⟨[], tells_nothing⟩
  · refine Ends.call fun answer w₁ _ => ?_
    cases answer with
    | ok data =>
      dsimp only
      split
      · exact peerGone_tells.mono fun _ _ h => ⟨[], h⟩
      · exact Ends.pure ⟨data, rfl, .inl (.refl _)⟩
    | error e =>
      dsimp only
      split
      · exact Ends.pure ⟨[], tells_nothing⟩
      · exact peerGone_tells.mono fun _ _ h => ⟨[], h⟩

theorem onHangup_tells {hangup : Bool} :
    (v.onHangup hangup).Ends w fun r _ => Tells v [] [.closed v.id] r := by
  unfold onHangup
  split
  · exact Ends.pure tells_nothing
  split
  · exact peerGone_tells
  · refine Ends.bind (p := fun _ _ => True) trivial fun result w₁ _ => ?_
    cases result with
    | ok => exact Ends.pure tells_nothing
    | error e => exact peerGone_tells

omit [OperatingSystem κ] in
theorem ifObserved_either {observed : Bool} {phase : Action κ (VirtualSocket × List Event)}
    {p : VirtualSocket × List Event → Prop} (h : phase.Ends w fun r _ => p r) (hn : p (v, [])) :
    (v.ifObserved observed phase).Ends w fun r _ => p r := by
  unfold ifObserved
  split
  · exact h
  · exact Ends.pure hn

theorem remainder_tells {ready : Interest} {told : List Event} :
    (v.remainder ctx ready told).Ends w fun r _ => ∃ data,
      r.2.Sublist (told ++ [.recv v.id data, .closed v.id]) := by
  unfold remainder
  refine Ends.bind (ifObserved_either onReadable_tells ⟨[], tells_nothing⟩) ?_
  rintro ⟨v₁, received⟩ w₁ ⟨data, hid, hreceived⟩
  dsimp only at hid hreceived ⊢
  rcases hreceived with hreceived | ⟨hclosed, hreceived⟩
  · refine Ends.bind onHangup_tells ?_
    rintro ⟨v₂, ended⟩ w₂ ⟨-, hended⟩
    have hend : ended.Sublist [.closed v.id] :=
      hid ▸ hended.elim (fun h => h.trans (List.nil_sublist _)) And.right
    refine Ends.pure ⟨data, ?_⟩
    rw [List.append_assoc]
    exact (List.Sublist.refl told).append (hreceived.append hend)
  · rw [onHangup_idle (live?_of_closed hclosed), pure_bind]
    refine Ends.pure ⟨data, ?_⟩
    rw [List.append_nil]
    exact (List.Sublist.refl told).append (hreceived.trans (List.sublist_cons_self _ _))

/-- A readiness tells what has become of the connect, then data, then the end, each at most once. -/
theorem handleReady_tells {ready : Interest} : (v.handleReady ctx ready).Ends w fun r _ =>
    ∃ success data, r.2.Sublist [.connected v.id success, .recv v.id data, .closed v.id] := by
  rw [handleReady_eq]
  refine Ends.bind (ifObserved_either onError_tells tells_nothing) ?_
  rintro ⟨v₁, failed⟩ w₁ ⟨hid₁, hfailed⟩
  dsimp only at hid₁ hfailed ⊢
  rcases hfailed with hfailed | ⟨hclosed, hfailed⟩
  · obtain rfl := List.sublist_nil.1 hfailed
    refine Ends.bind (ifObserved_either onWritable_tells ⟨true, tells_nothing⟩) ?_
    rintro ⟨v₂, written⟩ w₂ ⟨success, hid₂, hwritten⟩
    dsimp only at hid₂ hwritten ⊢
    rw [List.nil_append]
    rw [hid₁] at hid₂ hwritten
    rcases hwritten with hwritten | ⟨hclosed, hwritten⟩
    · refine remainder_tells.mono fun r w' h => ?_
      obtain ⟨data, h⟩ := h
      rw [hid₂] at h
      exact ⟨success, data, h.trans (hwritten.append (.refl _))⟩
    · rw [remainder_idle (live?_of_closed hclosed)]
      exact Ends.pure ⟨success, [], hwritten.trans ((List.sublist_cons_self _ _).cons_cons _)⟩
  · rw [ifObserved_idle (onWritable_idle (live?_of_closed hclosed)), pure_bind]
    dsimp only
    rw [remainder_idle (live?_of_closed hclosed), List.append_nil]
    exact Ends.pure ⟨false, [], hfailed.trans ((List.nil_sublist _).cons_cons _)⟩

end VirtualSocket

end SocketRelay
