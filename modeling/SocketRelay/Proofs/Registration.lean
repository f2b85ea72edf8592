import SocketRelay.Proofs.Action

/-!
# What the reactor's operations on one registration do

Each operation either fails with a call that the system refused, or makes its call and changes one
row of the table. Watching takes a generation in both cases.
-/
namespace SocketRelay

/-- A token tells its descriptor. -/
@[simp] theorem Token.descriptor_pack (d : Descriptor) (generation : UInt32) :
    (Token.pack d generation).descriptor = d := by
  have h : (generation.toUInt64 <<< 32 ||| d.toUInt32.toUInt64).toUInt32 = d.toUInt32 := by
    apply UInt32.eq_of_toBitVec_eq
    apply BitVec.eq_of_getLsbD_eq
    intro i hi
    simp
  unfold descriptor pack
  rw [h]
  exact Int32.toInt32_toUInt32 d

namespace Reactor
open SocketRelay.Action (Ends)

def withTable (r : Reactor) (t : Table Descriptor Registration) : Reactor := { r with table := t }

def advance (r : Reactor) : Reactor := { r with nextGeneration := r.nextGeneration + 1 }

@[simp] theorem withTable_table (r : Reactor) (t : Table Descriptor Registration) :
    (r.withTable t).table = t := rfl
@[simp] theorem advance_table (r : Reactor) : r.advance.table = r.table := rfl

variable {κ : Type} {w : World κ} {d : Descriptor} {interest : Interest}

/-- Setting an interest failed: there is no row, or the system refused. -/
def SetFailed (d : Descriptor) (w w' : World κ) : Prop :=
  (w.reactor.table.get? d = none ∧ w' = w) ∨
    ∃ bits token e, w.Moved [⟨.epollModify d bits token, .error e⟩] w.reactor w'

variable [OperatingSystem κ]

/-- A registration takes the next generation and enters the table exactly if the system agrees. -/
theorem register_ends {socket : SocketId} {mailbox : MailboxId} :
    (register d socket mailbox interest).Ends w fun result w' =>
      match result with
      | .ok token => token = Token.pack d w.reactor.nextGeneration ∧
          w.Moved [⟨.epollAdd d interest.toEpoll token, .ok ()⟩]
            (w.reactor.advance.withTable
              (w.reactor.table.insert d ⟨token, socket, interest, mailbox⟩)) w'
      | .error _ => ∃ bits token e,
          w.Moved [⟨.epollAdd d bits token, .error e⟩] w.reactor.advance w' := by
  unfold register
  refine Ends.bind (p := fun generation w' => generation = w.reactor.nextGeneration ∧
    w.Moved [] w.reactor.advance w') ⟨rfl, rfl, rfl, rfl, rfl⟩ ?_
  intro _ w₁ hafter
  obtain ⟨rfl, h₁⟩ := hafter
  refine Ends.call fun answer w₂ h₂ => ?_
  have h := h₁.trans h₂
  rw [h₁.reactor] at h
  cases answer with
  | error e => exact Ends.pure ⟨interest.toEpoll, Token.pack d w.reactor.nextGeneration, e, h⟩
  | ok =>
    refine Ends.bind (p := fun _ w' => w.Moved
      [⟨.epollAdd d interest.toEpoll (Token.pack d w.reactor.nextGeneration), .ok ()⟩] _ w') ?_
      fun _ _ h₃ => Ends.pure ⟨rfl, h₃⟩
    refine ⟨h.history, ?_, h.mailboxes, h.now⟩
    change Reactor.mk _ _ _ = Reactor.mk _ _ _
    rw [h.reactor]
    rfl

theorem setInterest_ends :
    (setInterest d interest).Ends w fun result w' =>
      match result with
      | .ok _ => ∃ registration, w.reactor.table.get? d = some registration ∧
          w.Moved [⟨.epollModify d interest.toEpoll registration.token, .ok ()⟩]
            (w.reactor.withTable (w.reactor.table.insert d { registration with interest })) w'
      | .error e => (∃ errno, e = .io "epoll_ctl(MOD)" errno) ∧ SetFailed d w w' := by
  unfold setInterest
  refine Ends.read ?_
  split
  · exact Ends.pure ⟨⟨_, rfl⟩, .inl ⟨‹_›, rfl⟩⟩
  · rename_i registration hr
    refine Ends.call fun answer w₁ h => ?_
    cases answer with
    | error e => exact Ends.pure ⟨⟨_, rfl⟩, .inr ⟨_, _, e, h⟩⟩
    | ok =>
      refine Ends.bind (p := fun _ w' => w.Moved
        [⟨.epollModify d interest.toEpoll registration.token, .ok ()⟩] _ w') ?_
        fun _ _ h₂ => Ends.pure ⟨registration, hr, h₂⟩
      refine ⟨h.history, ?_, h.mailboxes, h.now⟩
      change Reactor.mk _ _ _ = Reactor.mk _ _ _
      rw [h.reactor]

/-- Without a row nothing happens; with one the row goes, whatever the system answers. -/
theorem unregister_ends :
    (unregister d).Ends w fun _ w' => (w.reactor.table.get? d = none ∧ w' = w) ∨
      ∃ answer, w.Moved [⟨.epollRemove d, answer⟩]
        (w.reactor.withTable (w.reactor.table.erase d)) w' := by
  unfold unregister
  refine Ends.read ?_
  split
  · exact Ends.pure (.inl ⟨‹_›, rfl⟩)
  · refine Ends.bind (p := fun _ w' =>
      w.Moved [] (w.reactor.withTable (w.reactor.table.erase d)) w') ⟨rfl, rfl, rfl, rfl⟩ ?_
    intro _ w₁ h₁
    refine Ends.call fun answer w₂ h₂ => ?_
    have h := h₁.trans h₂
    rw [h₁.reactor] at h
    cases answer with
    | ok => exact Ends.pure (.inr ⟨_, h⟩)
    | error e =>
      dsimp only
      split
      · exact Ends.pure (.inr ⟨_, h⟩)
      · exact Ends.pure (.inr ⟨_, h⟩)

/-- Arming again needs the row of that token; the row stays as it is. -/
theorem rearm_ends {token : Token} :
    (rearm token).Ends w fun _ w' =>
      ((∀ registration, w.reactor.table.get? token.descriptor = some registration →
          registration.token ≠ token) ∧ w' = w) ∨
        ∃ registration answer, w.reactor.table.get? token.descriptor = some registration ∧
          registration.token = token ∧
          w.Moved [⟨.epollModify token.descriptor registration.interest.toEpoll token, answer⟩]
            w.reactor w' := by
  unfold rearm
  refine Ends.read ?_
  split
  · rename_i hn
    exact Ends.pure (.inl ⟨by simp [hn], rfl⟩)
  rename_i registration hr
  split
  · rename_i ht
    exact Ends.call fun answer w' h => Ends.pure (.inr ⟨registration, answer, hr, ht, h⟩)
  · rename_i ht
    refine Ends.pure (.inl ⟨fun other ho => ?_, rfl⟩)
    cases hr.symm.trans ho
    exact ht

end Reactor

end SocketRelay
