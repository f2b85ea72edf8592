import SocketRelay.Proofs.Action
import SocketRelay.Proofs.History

/-!
# Systems with fixed answers

Some calls bring news of the peer: the pending error, a send, a read. `Answers` is an operating
system whose answers are fixed beforehand, whatever the sequence: an answer may depend on the call
and on how many calls of this kind came before it, and on nothing else. So two programs that make
the same such calls get the same news, however they go about their registrations. Arming an entry
always succeeds there; all other answers are arbitrary.

`Action.Alike` compares two actions that are started in two worlds of this kind.
-/
namespace SocketRelay

/-- A call whose answer brings news of the peer. -/
def Call.conveys : Call → Bool
  | .takeError _ | .send _ _ | .recv _ _ => true
  | _ => false

/-- The calls that brought news, with their answers, latest first. -/
def History.conveyed (h : History) : List Exchange := h.filter fun x => x.call.conveys

/-- Answers for every call at every point, and the point that has been reached. -/
structure Answers where
  answer : Nat → (c : Call) → c.Answer
  given : Nat := 0
  arms : ∀ n d bits token, answer n (.epollModify d bits token) = .ok ()

instance : OperatingSystem Answers where
  respond a c := (a.answer a.given c, if c.conveys then { a with given := a.given + 1 } else a)

variable {κ κ' α β : Type}

/-- The same world with another system. -/
def World.under (w : World κ) (system : κ') : World κ' := { w with system }

/-- The worlds are at the same point, and the same news has come. -/
structure World.Level (w w' : World Answers) : Prop where
  system : w'.system = w.system
  conveyed : History.conveyed w'.history = History.conveyed w.history

namespace World.Level
variable {w w' w'' : World Answers}

theorem refl (w : World Answers) : w.Level w := ⟨rfl, rfl⟩

theorem symm (h : w.Level w') : w'.Level w := ⟨h.system.symm, h.conveyed.symm⟩

theorem trans (h : w.Level w') (h' : w'.Level w'') : w.Level w'' :=
  ⟨h'.system.trans h.system, h'.conveyed.trans h.conveyed⟩

end World.Level

namespace Action
variable {a b : Action Answers α} {f g : α → Action Answers β} {w w' : World Answers} {c : Call}

/-- A call that brings no news leaves the world level. -/
theorem perform_level (hc : c.conveys = false) :
    (perform c).Ends w fun answer u => answer = w.system.answer w.system.given c ∧ w.Level u := by
  refine ⟨rfl, ?_, ?_⟩
  · change (if c.conveys then _ else _) = _
    rw [hc]
    rfl
  · exact List.filter_cons_of_neg (by simp [hc])

theorem modify_level {d : Descriptor} {bits : UInt32} {token : Token} :
    (perform (.epollModify d bits token)).Ends w fun answer u => answer = .ok () ∧ w.Level u :=
  (perform_level rfl).mono fun _ _ h => ⟨h.1.trans (w.system.arms _ _ _ _), h.2⟩

/-- Started in two worlds, two actions end with the same result and in worlds that are level. -/
structure Alike (a b : Action Answers α) (w w' : World Answers) : Prop where
  result : (a w).1 = (b w').1
  level : (a w).2.Level (b w').2

theorem Alike.pure {x : α} (h : w.Level w') : Alike (pure x) (pure x) w w' := ⟨rfl, h⟩

/-- What is known of each side alone may be used for the steps that follow. -/
theorem Alike.bind_ends {p q : α → World Answers → Prop} (h : a.Alike b w w') (ha : a.Ends w p)
    (hb : b.Ends w' q) (hf : ∀ x u u', p x u → q x u' → u.Level u' → (f x).Alike (g x) u u') :
    Alike (a >>= f) (b >>= g) w w' := by
  have hq : q (a w).1 (b w').2 := by
    rw [h.result]
    exact hb
  have hnext := hf _ _ _ ha hq h.level
  rw [h.result] at hnext
  have hleft : (a >>= f) w = f (b w').1 (a w).2 := congrArg (f · (a w).2) h.result
  refine ⟨?_, ?_⟩
  · rw [hleft]
    exact hnext.result
  · rw [hleft]
    exact hnext.level

theorem Alike.bind (h : a.Alike b w w')
    (hf : ∀ x u u', u.Level u' → (f x).Alike (g x) u u') : Alike (a >>= f) (b >>= g) w w' :=
  h.bind_ends (p := fun _ _ => True) (q := fun _ _ => True) trivial trivial
    fun x u u' _ _ hl => hf x u u' hl

theorem Alike.perform (h : w.Level w') : Alike (perform c) (perform c) w w' := by
  have hanswer : w.system.answer w.system.given c = w'.system.answer w'.system.given c := by
    rw [h.system]
  refine ⟨hanswer, ?_, ?_⟩
  · change (if c.conveys then _ else _) = if c.conveys then _ else _
    rw [h.system]
  · change History.conveyed (⟨c, w'.system.answer w'.system.given c⟩ :: w'.history) =
      History.conveyed (⟨c, w.system.answer w.system.given c⟩ :: w.history)
    unfold History.conveyed
    rw [← hanswer, List.filter_cons, List.filter_cons]
    split
    · exact congrArg _ h.conveyed
    · exact h.conveyed

/-- Two actions that bring no news and are known to have the same result. -/
theorem Alike.of_level {x : α} (ha : a.Ends w fun y u => y = x ∧ w.Level u)
    (hb : b.Ends w' fun y u => y = x ∧ w'.Level u) (h : w.Level w') : a.Alike b w w' :=
  ⟨ha.1.trans hb.1.symm, ha.2.symm.trans (h.trans hb.2)⟩

end Action

namespace Reactor
open SocketRelay.Action (Ends)
variable {w : World Answers} {d : Descriptor}

theorem unregister_level : (unregister d).Ends w fun _ u => w.Level u := by
  unfold unregister
  refine Ends.read ?_
  split
  · exact Ends.pure (.refl w)
  · refine Ends.bind (p := fun _ u => w.Level u) ⟨rfl, rfl⟩ fun _ u hu => ?_
    refine Ends.bind (Action.perform_level rfl) fun answer u' hu' => ?_
    have h := hu.trans hu'.2
    cases answer with
    | ok => exact Ends.pure h
    | error e =>
      dsimp only
      split
      · exact Ends.pure h
      · exact Ends.pure h

theorem setInterest_level {interest : Interest} {registration : Registration}
    (hr : w.reactor.table.get? d = some registration) :
    (setInterest d interest).Ends w fun result u => result = .ok () ∧ w.Level u := by
  unfold setInterest
  refine Ends.read ?_
  rw [hr]
  refine Ends.bind Action.modify_level fun answer u hu => ?_
  obtain ⟨rfl, hu⟩ := hu
  refine Ends.bind (p := fun _ u' => w.Level u') ⟨hu.system, hu.conveyed⟩ fun _ u' hu' => ?_
  exact Ends.pure ⟨rfl, hu'⟩

end Reactor

end SocketRelay
