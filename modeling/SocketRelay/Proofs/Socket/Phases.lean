import SocketRelay.Proofs.Answers
import SocketRelay.Proofs.Socket.Placing

/-!
# A readiness, taken apart

A mask with several conditions may be handled at once, or as if each condition had been reported by
itself, in the order in which the phases run. With the same answers of the system both ways make the
same calls, tell the same events and leave the same socket; the second one only renews the
registration more often. A socket that an earlier condition has ended takes no notice of the rest.

Each phase by itself does the same in two worlds that are level, whatever the reactor holds there.
What a phase does besides, ending a registration or renewing one, brings no news.
-/
namespace SocketRelay
open Protocol (Event)
open SocketRelay.Action (Ends Alike)

namespace VirtualSocket

/-- The conditions of a mask handled one by one. -/
def handleEach {κ : Type} [OperatingSystem κ] (v : VirtualSocket) (ctx : SocketContext)
    (ready : Interest) : Action κ (VirtualSocket × List Event) := do
  let (s, failed) ← v.ifObserved ready.error (v.handleReady ctx { error := true })
  let (s, written) ← s.ifObserved ready.write (s.handleReady ctx { write := true })
  let (s, received) ← s.ifObserved ready.read (s.handleReady ctx { read := true })
  let (s, ended) ← s.ifObserved ready.hangup (s.handleReady ctx { hangup := true })
  return (s, failed ++ written ++ received ++ ended)

section
variable {ctx : SocketContext} {v : VirtualSocket} {w w' : World Answers} {d : Descriptor}
variable {r : Reactor} {registration : Registration} {current : Prop}

theorem close_level : v.close.Ends w fun v' u =>
    v' = (if v.closed then v else v.shut) ∧ w.Level u := by
  unfold close
  split
  · exact Ends.pure ⟨rfl, .refl w⟩
  split
  · exact Ends.pure ⟨rfl, .refl w⟩
  · refine Ends.bind Reactor.unregister_level fun _ u hu => ?_
    refine Ends.bind (Action.perform_level rfl) fun _ u' hu' => ?_
    exact Ends.pure ⟨rfl, hu.trans hu'.2⟩

theorem onHangup_level (h : Placed r d registration current v w.reactor) :
    (v.onHangup false).Ends w fun x u => x = (v, []) ∧ w.Level u := by
  unfold onHangup
  split
  · exact Ends.pure ⟨rfl, .refl w⟩
  rename_i e hd
  obtain rfl := h.eq_of_live? hd
  obtain ⟨interest, hr⟩ := h.row hd
  unfold rearm
  rw [(live?_eq_some.1 hd).2]
  refine Ends.bind (Reactor.setInterest_level hr) fun result u hu => ?_
  obtain ⟨rfl, hu⟩ := hu
  exact Ends.pure ⟨rfl, hu⟩

theorem flush_alike (data : Bytes) {w w' : World Answers} (hl : w.Level w') :
    (flush d data).Alike (flush d data) w w' := by
  unfold flush
  split
  · exact .pure hl
  rename_i hdata
  refine (Alike.perform hl).bind fun answer u u' hu => ?_
  cases answer with
  | error e =>
    dsimp only
    split
    · exact .pure hu
    · exact .pure hu
  | ok n =>
    have hpos := List.length_pos_iff.2 hdata
    dsimp only
    split
    · exact .pure hu
    · exact flush_alike (data.drop n) hu
termination_by data.length
decreasing_by
  simp only [List.length_drop]
  omega

variable (hl : w.Level w')
include hl

theorem close_alike : v.close.Alike v.close w w' := .of_level close_level close_level hl

theorem failConnect_alike : v.failConnect.Alike v.failConnect w w' :=
  (close_alike hl).bind fun _ _ _ hu => .pure hu

theorem peerGone_alike : v.peerGone.Alike v.peerGone w w' := by
  unfold peerGone
  split
  · exact .pure hl
  · exact (close_alike hl).bind fun _ _ _ hu => .pure hu

theorem pendingError_alike : (pendingError d).Alike (pendingError d) w w' := by
  refine (Alike.perform hl).bind fun answer u u' hu => ?_
  cases answer with
  | ok e => exact .pure hu
  | error e => exact .pure hu

theorem onError_alike : v.onError.Alike v.onError w w' := by
  unfold onError
  split
  · exact .pure hl
  · refine (pendingError_alike hl).bind fun _ u u' hu => ?_
    split
    · exact failConnect_alike hu
    · exact .pure hu

theorem settleConnect_alike : (v.settleConnect d).Alike (v.settleConnect d) w w' := by
  unfold settleConnect
  split
  · refine (pendingError_alike hl).bind fun pending u u' hu => ?_
    cases pending with
    | some e => exact failConnect_alike hu
    | none => exact .pure hu
  · exact .pure hl

theorem flushOutbound_alike : v.flushOutbound.Alike v.flushOutbound w w' := by
  unfold flushOutbound
  split
  · exact .pure hl
  · refine (flush_alike _ hl).bind fun result u u' hu => ?_
    cases result with
    | ok rest => exact .pure hu
    | error e => exact peerGone_alike hu

theorem onWritable_alike : v.onWritable.Alike v.onWritable w w' := by
  unfold onWritable
  split
  · exact .pure hl
  · refine (settleConnect_alike hl).bind fun settled u u' hu => ?_
    exact (flushOutbound_alike hu).bind fun flushed _ _ hu' => .pure hu'

theorem onReadable_alike : (v.onReadable ctx).Alike (v.onReadable ctx) w w' := by
  unfold onReadable
  split
  · exact .pure hl
  · refine (Alike.perform hl).bind fun answer u u' hu => ?_
    cases answer with
    | ok data =>
      dsimp only
      split
      · exact peerGone_alike hu
      · exact .pure hu
    | error e =>
      dsimp only
      split
      · exact .pure hu
      · exact peerGone_alike hu

theorem onHangup_alike : (v.onHangup true).Alike (v.onHangup true) w w' := by
  unfold onHangup
  split
  · exact .pure hl
  · exact peerGone_alike hl

end

section
variable {κ : Type} [OperatingSystem κ] {ctx : SocketContext} {v : VirtualSocket} {w : World κ}
variable {r : Reactor} {d : Descriptor} {registration : Registration} {current : Prop}
variable {phase : Action κ (VirtualSocket × List Event)} {observed : Bool}

omit [OperatingSystem κ] in
theorem Placed.afoot {r₁ : Reactor} (h : Placed r d registration current v r₁) :
    Afoot d False v := by
  cases h with
  | ended hv => exact .inl hv
  | held interest hd => exact .inr ⟨hd, False.elim⟩

theorem onError_placed (ctx : SocketContext) (h : Placed r d registration False v w.reactor) :
    v.onError.Ends w fun x u => Placed r d registration False x.1 u.reactor :=
  (onError_conduct ctx False h.afoot).mono fun _ _ hx => hx.1.placed h

theorem onWritable_placed (ctx : SocketContext) (h : Placed r d registration False v w.reactor) :
    v.onWritable.Ends w fun x u => Placed r d registration False x.1 u.reactor :=
  (onWritable_conduct ctx False h.afoot).mono fun _ _ hx => hx.1.placed h

theorem onReadable_placed (h : Placed r d registration False v w.reactor) :
    (v.onReadable ctx).Ends w fun x u => Placed r d registration False x.1 u.reactor :=
  (onReadable_conduct ctx False h.afoot False.elim).mono fun _ _ hx => hx.1.placed h

omit [OperatingSystem κ] in
theorem ifObserved_placed (h : Placed r d registration current v w.reactor)
    (hp : phase.Ends w fun x u => Placed r d registration current x.1 u.reactor) :
    (v.ifObserved observed phase).Ends w fun x u =>
      Placed r d registration current x.1 u.reactor := by
  unfold ifObserved
  split
  · exact hp
  · exact Ends.pure h

/-- A condition that is handled by itself brings the row up to date. -/
theorem ifObserved_current {ready : Interest} (h : Placed r d registration current v w.reactor) :
    (v.ifObserved observed (v.handleReady ctx ready)).Ends w fun x u =>
      Placed r d registration (current ∨ observed) x.1 u.reactor := by
  unfold ifObserved
  split
  · exact (handleReady_placed h).mono fun _ _ hx => hx.mono fun _ => trivial
  · rename_i hnot
    exact Ends.pure (h.mono fun hc => hc.resolve_right hnot)

/-- If there is a condition at all, its row is up to date in the end. -/
theorem handleEach_placed {ready : Interest} (hready : ready.isEmpty = false)
    (h : Placed r d registration False v w.reactor) :
    (v.handleEach ctx ready).Ends w fun x u => Placed r d registration True x.1 u.reactor := by
  unfold handleEach
  refine Ends.bind (ifObserved_current h) fun x₁ w₁ h₁ => ?_
  refine Ends.bind (ifObserved_current h₁) fun x₂ w₂ h₂ => ?_
  refine Ends.bind (ifObserved_current h₂) fun x₃ w₃ h₃ => ?_
  refine Ends.bind (ifObserved_current h₃) fun x₄ w₄ h₄ => Ends.pure (h₄.mono fun _ => ?_)
  obtain ⟨read, write, hangup, error⟩ := ready
  revert hready
  cases read <;> cases write <;> cases hangup <;> cases error <;> decide

/-- A phase after which the socket listens again. -/
def thenRearm (phase : Action κ (VirtualSocket × List Event)) :
    Action κ (VirtualSocket × List Event) := do
  let (s, events) ← phase
  let (s, ended) ← s.onHangup false
  return (s, events ++ ended)

theorem handleReady_error :
    v.handleReady (κ := κ) ctx { error := true } = thenRearm v.onError := by
  simp [handleReady, ifObserved, thenRearm]

theorem handleReady_write :
    v.handleReady (κ := κ) ctx { write := true } = thenRearm v.onWritable := by
  simp [handleReady, ifObserved, thenRearm]

theorem handleReady_read :
    v.handleReady (κ := κ) ctx { read := true } = thenRearm (v.onReadable ctx) := by
  simp [handleReady, ifObserved, thenRearm]

theorem handleReady_hangup : v.handleReady (κ := κ) ctx { hangup := true } = v.onHangup true := by
  simp [handleReady, ifObserved]

theorem handleEach_of_live?_eq_none {ready : Interest} (h : v.live? = none) :
    v.handleEach (κ := κ) ctx ready = pure (v, []) := by
  have hskip : ∀ observed bit,
      v.ifObserved observed (v.handleReady (κ := κ) ctx bit) = pure (v, []) :=
    fun observed bit => ifObserved_idle (handleReady_of_live?_eq_none ctx h)
  unfold handleEach
  rw [hskip, pure_bind]
  dsimp only
  rw [hskip, pure_bind]
  dsimp only
  rw [hskip, pure_bind]
  dsimp only
  rw [hskip, pure_bind]
  rfl

end

section
variable {ctx : SocketContext} {v : VirtualSocket} {w w' : World Answers} {d : Descriptor}
variable {r : Reactor} {registration : Registration} {observed : Bool}
variable {phase : Action Answers (VirtualSocket × List Event)}

/-- Listening again after a phase makes no difference to what comes next. -/
theorem thenRearm_alike (h : phase.Alike phase w w')
    (hp : phase.Ends w' fun x u => Placed r d registration False x.1 u.reactor) :
    phase.Alike (thenRearm phase) w w' := by
  have hright : (thenRearm phase).Ends w' fun x u => x = (phase w').1 ∧ (phase w').2.Level u := by
    unfold thenRearm
    refine Ends.bind (p := fun x u => x = (phase w').1 ∧ u = (phase w').2) ⟨rfl, rfl⟩ ?_
    rintro _ _ ⟨rfl, rfl⟩
    refine Ends.bind (onHangup_level hp) fun y u hy => ?_
    obtain ⟨rfl, hu⟩ := hy
    exact Ends.pure ⟨Prod.ext rfl (List.append_nil _), hu⟩
  exact ⟨h.result.trans hright.1.symm, h.level.trans hright.2⟩

theorem ifObserved_alike {phase' : Action Answers (VirtualSocket × List Event)} (hl : w.Level w')
    (h : phase.Alike phase' w w') :
    (v.ifObserved observed phase).Alike (v.ifObserved observed phase') w w' := by
  unfold ifObserved
  split
  · exact h
  · exact .pure hl

/-- All conditions at once and one by one: the same result, after the same news. -/
theorem handleReady_alike {ready : Interest} (hl : w.Level w')
    (h : Placed r d registration False v w.reactor)
    (h' : Placed r d registration False v w'.reactor) :
    (v.handleReady ctx ready).Alike (v.handleEach ctx ready) w w' := by
  unfold handleReady handleEach
  have hback : ∀ {s : VirtualSocket} {u : World Answers} {bit : Interest} {observed},
      Placed r d registration False s u.reactor →
      (s.ifObserved observed (s.handleReady ctx bit)).Ends u fun x u' =>
        Placed r d registration False x.1 u'.reactor := fun hs =>
    ifObserved_placed hs ((handleReady_placed hs).mono fun _ _ hx => hx.mono fun _ => trivial)
  refine Alike.bind_ends (ifObserved_alike hl ?_)
    (ifObserved_placed h (onError_placed ctx h)) (hback h') fun x₁ w₁ w₁' h₁ h₁' hl₁ => ?_
  · rw [handleReady_error]
    exact thenRearm_alike (onError_alike hl) (onError_placed ctx h')
  obtain ⟨v₁, failed⟩ := x₁
  dsimp only at h₁ h₁' ⊢
  refine Alike.bind_ends (ifObserved_alike hl₁ ?_)
    (ifObserved_placed h₁ (onWritable_placed ctx h₁)) (hback h₁')
    fun x₂ w₂ w₂' h₂ h₂' hl₂ => ?_
  · rw [handleReady_write]
    exact thenRearm_alike (onWritable_alike hl₁) (onWritable_placed ctx h₁')
  obtain ⟨v₂, written⟩ := x₂
  dsimp only at h₂ h₂' ⊢
  refine Alike.bind_ends (ifObserved_alike hl₂ ?_)
    (ifObserved_placed h₂ (onReadable_placed h₂)) (hback h₂') fun x₃ w₃ w₃' h₃ h₃' hl₃ => ?_
  · rw [handleReady_read]
    exact thenRearm_alike (onReadable_alike hl₂) (onReadable_placed h₂')
  obtain ⟨v₃, received⟩ := x₃
  dsimp only at h₃ h₃' ⊢
  refine Alike.bind ?_ fun x₄ w₄ w₄' hl₄ => .pure hl₄
  cases ready.hangup with
  | true =>
    rw [handleReady_hangup]
    exact onHangup_alike hl₃
  | false => exact .of_level (onHangup_level h₃) (Ends.pure ⟨rfl, .refl _⟩) hl₃

end

end VirtualSocket

end SocketRelay
