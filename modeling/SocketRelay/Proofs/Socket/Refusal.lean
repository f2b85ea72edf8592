import SocketRelay.Proofs.Socket.Deed

/-!
# Refused operations

An operation that a virtual socket refuses, because it does not fit the socket or because there is
no room, is refused before anything happens: the socket stays as it is, no event is caused and no
call is made. Only a send for which the queue has no room may have made one call before, for the
bytes that the system would take at once.

The other errors all come from calls that the system refused, so their category tells them apart.
-/
namespace SocketRelay

/-- The client asked for something that does not fit, or for too much. -/
def RelayError.IsRefusal (e : RelayError) : Prop :=
  e.category = .usage ∨ e.category = .resourceLimit

theorem RelayError.not_isRefusal_io (operation : String) (errno : Errno) :
    ¬ IsRefusal (.io operation errno) := by
  intro h
  rcases h with h | h <;> cases h

/-- If something went wrong, the system was to blame. -/
def Unrefused {α : Type} (result : Except RelayError α) : Prop :=
  ∀ e, result = .error e → ¬ e.IsRefusal

theorem unrefused_ok {α : Type} (a : α) : Unrefused (.ok a) := nofun

theorem unrefused_io {α : Type} (operation : String) (errno : Errno) :
    Unrefused (.error (.io operation errno) : Except RelayError α) := by
  intro e h
  cases h
  exact RelayError.not_isRefusal_io operation errno

open SocketRelay.Action (Ends)
variable {κ : Type} [OperatingSystem κ] {w : World κ}

theorem Reactor.register_unrefused {d : Descriptor} {socket : SocketId} {mailbox : MailboxId}
    {interest : Interest} :
    (register d socket mailbox interest).Ends w fun result _ => Unrefused result := by
  unfold register
  refine Ends.bind (p := fun _ _ => True) trivial fun generation w₁ _ => ?_
  refine Ends.call fun answer w₂ _ => ?_
  cases answer with
  | error e => exact Ends.pure (unrefused_io _ e)
  | ok => exact Ends.bind (p := fun _ _ => True) trivial fun _ _ _ => Ends.pure (unrefused_ok _)

theorem Reactor.setInterest_unrefused {d : Descriptor} {interest : Interest} :
    (setInterest d interest).Ends w fun result _ => Unrefused result := by
  refine setInterest_ends.mono fun result w' h => ?_
  cases result with
  | ok => exact unrefused_ok _
  | error e =>
    obtain ⟨⟨errno, rfl⟩, -⟩ := h
    exact unrefused_io _ errno

namespace VirtualSocket
variable {ctx : SocketContext} {v : VirtualSocket} {d : Descriptor}

theorem discard_unrefused {operation : String} {e : Errno} :
    (discard d operation e).Ends w fun result _ => Unrefused result := by
  unfold discard
  exact Ends.call fun _ _ _ => Ends.pure (unrefused_io operation e)

theorem createReal_unrefused : v.createReal.Ends w fun result _ => Unrefused result := by
  unfold createReal
  refine Ends.call fun answer w₁ _ => ?_
  cases answer with
  | error e => exact Ends.pure (unrefused_io _ e)
  | ok d =>
    refine Ends.bind (p := fun _ _ => True) trivial fun reuse w₂ _ => ?_
    cases reuse with
    | error e => exact discard_unrefused
    | ok =>
      refine Ends.call fun answer w₃ _ => ?_
      cases answer with
      | error e => exact discard_unrefused
      | ok => exact Ends.pure (unrefused_ok d)

theorem attach_unrefused : (v.attach ctx d).Ends w fun result _ =>
    Unrefused result ∧ ∀ b, result = .ok b → b.descriptor = some d := by
  unfold attach
  refine Ends.bind Reactor.register_unrefused fun result w₁ h => ?_
  cases result with
  | error e =>
    refine Ends.call fun _ _ _ => Ends.pure ⟨fun e' he => ?_, nofun⟩
    cases he
    exact h e rfl
  | ok token =>
    refine Ends.pure ⟨unrefused_ok _, fun b hb => ?_⟩
    cases hb
    rfl

theorem connectFailed_unrefused {e : RelayError} (he : ¬ e.IsRefusal) :
    (v.connectFailed e).Ends w fun o _ => Unrefused o.result := by
  unfold connectFailed
  refine Ends.bind (p := fun _ _ => True) trivial fun _ _ _ => Ends.pure fun e' h => ?_
  cases h
  exact he

theorem connectReal_unrefused {destination : Endpoint4} :
    (v.connectReal ctx d destination).Ends w fun o _ => Unrefused o.result := by
  unfold connectReal
  refine Ends.call fun answer w₁ _ => ?_
  cases ConnectStatus.ofAnswer answer with
  | error e =>
    exact Ends.call fun _ _ _ => connectFailed_unrefused (RelayError.not_isRefusal_io _ e)
  | ok status =>
    refine Ends.read (Ends.bind attach_unrefused fun result w₂ h => ?_)
    cases result with
    | error e => exact connectFailed_unrefused (h.1 e rfl)
    | ok b => exact Ends.pure (unrefused_ok _)

theorem openDatagram_unrefused : (v.openDatagram ctx).Ends w fun result _ =>
    Unrefused result ∧ ∀ b, result = .ok b → b.descriptor ≠ none := by
  unfold openDatagram
  split
  · rename_i d hd
    refine Ends.pure ⟨unrefused_ok _, fun b hb => ?_⟩
    cases hb
    simp [hd]
  · refine Ends.bind createReal_unrefused fun result w₁ h => ?_
    cases result with
    | error e =>
      refine Ends.pure ⟨fun e' he => ?_, nofun⟩
      cases he
      exact h e rfl
    | ok d =>
      refine attach_unrefused.mono fun result w₂ h => ⟨h.1, fun b hb => ?_⟩
      simp [h.2 b hb]

/-- The operation was refused only if nothing has happened. -/
def Careful (v : VirtualSocket) (w : World κ) (o : Outcome) (w' : World κ) : Prop :=
  Unrefused o.result ∨ o.socket = v ∧ o.events = [] ∧ w' = w

theorem connect_careful {address : Bytes} {port : Port} :
    (v.connect ctx address port).Ends w (Careful v w) := by
  unfold connect
  split
  · exact Ends.pure (.inr ⟨rfl, rfl, rfl⟩)
  split
  · exact Ends.pure (.inr ⟨rfl, rfl, rfl⟩)
  split
  · exact Ends.pure (.inr ⟨rfl, rfl, rfl⟩)
  split
  · exact Ends.pure (.inr ⟨rfl, rfl, rfl⟩)
  refine Ends.bind createReal_unrefused fun result w₁ h => ?_
  cases result with
  | error e => exact (connectFailed_unrefused (h e rfl)).mono fun _ _ => .inl
  | ok d => exact connectReal_unrefused.mono fun _ _ => .inl

theorem sendto_careful {address : Bytes} {port : Port} {data : Bytes} :
    (v.sendto ctx address port data).Ends w (Careful v w) := by
  unfold sendto
  split
  · exact Ends.pure (.inr ⟨rfl, rfl, rfl⟩)
  split
  · exact Ends.pure (.inr ⟨rfl, rfl, rfl⟩)
  split
  · exact Ends.pure (.inr ⟨rfl, rfl, rfl⟩)
  refine Ends.bind openDatagram_unrefused fun result w₁ h => ?_
  cases result with
  | error e =>
    refine Ends.pure (.inl fun e' he => ?_)
    cases he
    exact h.1 e rfl
  | ok b =>
    dsimp only
    split
    · rename_i hn
      exact (h.2 b rfl hn).elim
    · refine Ends.call fun answer w₂ _ => ?_
      cases answer with
      | error e => exact Ends.pure (.inl (unrefused_io _ e))
      | ok n => exact Ends.pure (.inl (unrefused_ok _))

theorem writeNow_moves {data : Bytes} : (v.writeNow d data).Ends w fun result w' =>
    Unrefused result ∧ (w' = w ∨ ∃ answer, w.Moved [⟨.send d data, answer⟩] w.reactor w') := by
  unfold writeNow
  split
  · exact Ends.pure ⟨unrefused_ok _, .inl rfl⟩
  refine Ends.call fun answer w₁ h₁ => ?_
  cases answer with
  | ok n => exact Ends.pure ⟨unrefused_ok _, .inr ⟨_, h₁⟩⟩
  | error e =>
    dsimp only
    split
    · exact Ends.pure ⟨unrefused_ok _, .inr ⟨_, h₁⟩⟩
    · exact Ends.pure ⟨unrefused_io _ e, .inr ⟨_, h₁⟩⟩

/-- There is no room: nothing is kept, and nobody is called. -/
theorem enqueue_careful {rest : Bytes} : (v.enqueue ctx rest).Ends w fun o w' =>
    Unrefused o.result ∨ o.socket = v ∧ o.events = [] ∧ w' = w ∧
      o.result = .error (.backpressure v.id v.outbound.length ctx.settings.sendQueueLimit) := by
  unfold enqueue
  dsimp only
  split
  · exact Ends.pure (.inr ⟨rfl, rfl, rfl, rfl⟩)
  split
  · refine Ends.bind (p := fun result _ => Unrefused result) ?_ fun result w₁ h =>
      Ends.pure (.inl h)
    unfold rearm
    split
    · exact Reactor.setInterest_unrefused
    · exact Ends.pure (unrefused_ok _)
  · exact Ends.pure (.inl (unrefused_ok _))

/-- A send is refused at once, or for want of room after one write at most. -/
theorem send_careful {data : Bytes} : (v.send ctx data).Ends w fun o w' =>
    Careful v w o w' ∨ o.socket = v ∧ o.events = [] ∧ ∃ d answer,
      v.live? = some d ∧ w.Moved [⟨.send d data, answer⟩] w.reactor w' ∧
      o.result = .error (.backpressure v.id v.outbound.length ctx.settings.sendQueueLimit) := by
  unfold send
  split
  · exact Ends.pure (.inl (.inr ⟨rfl, rfl, rfl⟩))
  split
  · exact Ends.pure (.inl (.inr ⟨rfl, rfl, rfl⟩))
  rename_i d hd
  refine Ends.bind writeNow_moves fun result w₁ h => ?_
  obtain ⟨hr, hw⟩ := h
  cases result with
  | error e =>
    refine Ends.pure (.inl (.inl fun e' he => ?_))
    cases he
    exact hr e rfl
  | ok n =>
    dsimp only
    split
    · exact Ends.pure (.inl (.inl (unrefused_ok _)))
    · refine enqueue_careful.mono fun o w' h => ?_
      rcases h with h | ⟨hs, he, rfl, ho⟩
      · exact .inl (.inl h)
      · rcases hw with rfl | ⟨answer, hw⟩
        · exact .inl (.inr ⟨hs, he, rfl⟩)
        · exact .inr ⟨hs, he, d, answer, hd, hw, ho⟩

end VirtualSocket

end SocketRelay
