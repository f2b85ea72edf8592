import SocketRelay.Reactor.Basic

/-!
# Where actions end

`Action.Ends` speaks of one action from one world: its result and the world it leaves are related
as stated. The rules below take a sequence apart at its first step. A system call may answer
anything, so the rule for it hands over an arbitrary answer; what is known of the world afterwards
is `World.Moved`.

`World.Moved` accounts for the reactor and for every call, newest first. It says nothing about the
state of the operating system, which is free to be anything after a call.
-/
namespace SocketRelay
variable {κ α β : Type}

/-- From `w` to `w'` exactly these calls took place, newest first, and the reactor became the given
one. -/
structure World.Moved (w : World κ) (calls : List Exchange) (reactor : Reactor) (w' : World κ) :
    Prop where
  history : w'.history = calls ++ w.history
  reactor : w'.reactor = reactor
  mailboxes : w'.mailboxes = w.mailboxes
  now : w'.now = w.now

theorem World.Moved.refl (w : World κ) : w.Moved [] w.reactor w := ⟨rfl, rfl, rfl, rfl⟩

theorem World.Moved.trans {w w' w'' : World κ} {calls calls' : List Exchange}
    {reactor reactor' : Reactor} (h : w.Moved calls reactor w')
    (h' : w'.Moved calls' reactor' w'') :
    w.Moved (calls' ++ calls) reactor' w'' :=
  ⟨by rw [h'.history, h.history, List.append_assoc], h'.reactor, h'.mailboxes.trans h.mailboxes,
    h'.now.trans h.now⟩

theorem World.eq_take_of_history {w w' : World κ} {calls : List Exchange}
    (h : w'.history = calls ++ w.history) :
    calls = w'.history.take (w'.history.length - w.history.length) := by
  rw [h, List.length_append, Nat.add_sub_cancel, List.take_left]

namespace Action

/-- Started in `w`, the action ends with a result and in a world that are related as stated. -/
def Ends (a : Action κ α) (w : World κ) (post : α → World κ → Prop) : Prop := post (a w).1 (a w).2

variable {a : Action κ α} {f : α → Action κ β} {w : World κ} {p : α → World κ → Prop}
variable {q : β → World κ → Prop}

theorem Ends.mono {p' : α → World κ → Prop} (h : a.Ends w p) (hp : ∀ x w', p x w' → p' x w') :
    a.Ends w p' := hp _ _ h

/-- An action has one end, so what is known of it holds together. -/
theorem Ends.and {p' : α → World κ → Prop} (h : a.Ends w p) (h' : a.Ends w p') :
    a.Ends w fun x w' => p x w' ∧ p' x w' := ⟨h, h'⟩

theorem Ends.bind (h : a.Ends w p) (hf : ∀ x w', p x w' → (f x).Ends w' q) :
    Ends (a >>= f) w q := hf _ _ h

theorem Ends.pure {x : α} (h : p x w) : Ends (pure x) w p := h

theorem bind_of_eq {x : α} {w' : World κ} (h : a w = (x, w')) : (a >>= f) w = f x w' := by
  change f (a w).1 (a w).2 = f x w'
  rw [h]

theorem Ends.read {f : World κ → Action κ β} (h : (f w).Ends w q) : Ends (get >>= f) w q := h

theorem Ends.perform [OperatingSystem κ] {c : Call} {p : c.Answer → World κ → Prop}
    (h : ∀ answer w', w.Moved [⟨c, answer⟩] w.reactor w' → p answer w') :
    (SocketRelay.perform c).Ends w p := h _ _ ⟨rfl, rfl, rfl, rfl⟩

theorem Ends.call [OperatingSystem κ] {c : Call} {f : c.Answer → Action κ β}
    (h : ∀ answer w', w.Moved [⟨c, answer⟩] w.reactor w' → (f answer).Ends w' q) :
    Ends (SocketRelay.perform c >>= f) w q := Ends.bind (Ends.perform h) fun _ _ hx => hx

end Action

end SocketRelay
