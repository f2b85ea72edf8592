import SocketRelay.Proofs.History

/-!
# How far a real socket has got

A real socket is opened, made reusable if it needs to be, bound, connected if it is a stream, put
under watch and then used. Its `Standing` says how far it has got, as the answers to the calls on it
tell; a standing admits the calls that may come next. A history is `Orderly` if every call on a
descriptor was on an open socket whose standing admitted it.

A connect counts as successful when its own answer says so, or when the pending error is asked for
later and there is none. A stream whose connect has failed admits neither a second one nor data.
-/
namespace SocketRelay

def Call.descriptor? : Call → Option Descriptor
  | .setReuseAddress d | .bindAny d _ | .localPort d | .connect d _ | .takeError d | .send d _
  | .sendTo d _ _ | .recv d _ | .close d | .epollAdd d _ _ | .epollModify d _ _ | .epollRemove d =>
    some d
  | .openSocket _ | .epollCreate | .epollWait _ => none

/-- What has become of the connect of a stream. -/
inductive Link where
  | idle
  | pending
  | connected
  | refused
  deriving DecidableEq, Repr

namespace Link

/-- The link after a connect with this answer. -/
def ofAnswer (answer : Except Errno Unit) : Link :=
  match ConnectStatus.ofAnswer answer with
  | .ok .connected => connected
  | .ok .inProgress => pending
  | .error _ => refused

/-- The link after the pending error was asked for. -/
def settle : Link → Except Errno (Option Errno) → Link
  | pending, .ok (some _) => refused
  | pending, _ => connected
  | link, _ => link

end Link

/-- How far a real socket has got. -/
structure Standing where
  kind : SocketKind
  /-- The local port may be taken again right after it was given up. -/
  reusable : Bool := false
  /-- The port that was bound to. -/
  port : Option Port := none
  link : Link := .idle
  deriving DecidableEq, Repr

namespace Standing

def after (s : Standing) : Exchange → Standing
  | ⟨.setReuseAddress _, .ok _⟩ => { s with reusable := true }
  | ⟨.bindAny _ port, .ok _⟩ => { s with port := some port }
  | ⟨.connect _ _, answer⟩ => { s with link := .ofAnswer answer }
  | ⟨.takeError _, answer⟩ => { s with link := s.link.settle answer }
  | _ => s

/-- May this be asked of a socket that has got this far? An explicit port has been made reusable
before it is bound to, and nothing but binding happens to a socket that is not bound. -/
def admits (s : Standing) : Call → Bool
  | .setReuseAddress _ => s.port = none
  | .bindAny _ port => s.port = none ∧ (s.reusable ↔ port ≠ 0)
  | .connect _ _ => s.port ≠ none ∧ s.kind = .tcp ∧ s.link = .idle
  | .epollAdd _ _ _ => s.port ≠ none ∧ (s.kind = .tcp → s.link = .pending ∨ s.link = .connected)
  | .send _ _ => s.port ≠ none ∧ s.kind = .tcp ∧ s.link = .connected
  | .sendTo _ _ _ => s.port ≠ none ∧ s.kind = .udp
  | .takeError _ | .recv _ _ => s.port ≠ none
  | _ => true

/-- Calls on a descriptor, newest first, each admitted by the standing before it. The socket stays
open. -/
inductive Leads (d : Descriptor) (s : Standing) : List Exchange → Standing → Prop
  | rest : Leads d s [] s
  | call {calls s'} (x : Exchange) : Leads d s calls s' → x.call.descriptor? = some d →
      x.call ≠ .close d → s'.admits x.call → Leads d s (x :: calls) (s'.after x)

theorem Leads.single {d : Descriptor} {s : Standing} (x : Exchange)
    (hd : x.call.descriptor? = some d) (hc : x.call ≠ .close d) (ha : s.admits x.call) :
    Leads d s [x] (s.after x) := Leads.rest.call x hd hc ha

end Standing

/-- What a call leaves of the standing under a number. A socket begins when it is given the number,
and is gone when it is closed. -/
def Exchange.leaves (d : Descriptor) (x : Exchange) (before : Option Standing) : Option Standing :=
  match x with
  | ⟨.openSocket kind, .ok e⟩ => if e = d then some { kind } else before
  | ⟨.close e, _⟩ => if e = d then none else before
  | x => if x.call.descriptor? = some d then before.map (·.after x) else before

theorem Exchange.leaves_of_on {d : Descriptor} {x : Exchange} (hx : x.call.descriptor? = some d)
    (hc : x.call ≠ .close d) (before : Option Standing) :
    x.leaves d before = before.map (·.after x) := by
  unfold leaves
  split
  · cases hx
  · cases hx
    exact (hc rfl).elim
  · exact if_pos hx

theorem Exchange.leaves_of_apart {d : Descriptor} {x : Exchange} (hx : x.call.descriptor? ≠ some d)
    (hd : x.opened? ≠ some d) (before : Option Standing) : x.leaves d before = before := by
  unfold leaves
  split
  · exact if_neg fun he => hd (congrArg some he)
  · exact if_neg fun he => hx (congrArg some he)
  · exact if_neg hx

namespace History
variable {d : Descriptor} {s s' : Standing} {calls h : History} {x : Exchange}

/-- How far the socket that has this number now has got. -/
def standing? (d : Descriptor) : History → Option Standing
  | [] => none
  | x :: h => x.leaves d (standing? d h)

/-- Every call on a descriptor is on an open socket, and admitted by its standing. -/
abbrev Orderly : History → Prop := Throughout fun x h =>
  x.call.descriptor?.all fun d => (standing? d h).any (·.admits x.call)

theorem Orderly.cons (ho : Orderly h)
    (hx : ∀ d, x.call.descriptor? = some d → ∃ s, standing? d h = some s ∧ s.admits x.call) :
    Orderly (x :: h) := by
  refine ⟨(Option.all_eq_true _ _).2 fun d hd => ?_, ho⟩
  obtain ⟨s, hs, ha⟩ := hx d hd
  rw [hs]
  exact ha

/-- Calls on other descriptors, and such as hand out other ones. -/
theorem standing?_append_of_apart
    (hc : ∀ x ∈ calls, x.call.descriptor? ≠ some d ∧ x.opened? ≠ some d)
    (h : History) : standing? d (calls ++ h) = standing? d h := by
  induction calls with
  | nil => rfl
  | cons x calls ih =>
    obtain ⟨hx, hc⟩ := List.forall_mem_cons.1 hc
    rw [List.cons_append, standing?, Exchange.leaves_of_apart hx.1 hx.2, ih hc]

theorem standing?_of_leads (hl : s.Leads d calls s') (hs : standing? d h = some s) :
    standing? d (calls ++ h) = some s' := by
  induction hl with
  | rest => exact hs
  | call x _ hd hc _ ih =>
    rw [List.cons_append, standing?, Exchange.leaves_of_on hd hc, ih, Option.map_some]

theorem Orderly.append (ho : Orderly h) (hl : s.Leads d calls s') (hs : standing? d h = some s) :
    Orderly (calls ++ h) := by
  induction hl with
  | rest => exact ho
  | call x hl hd _ ha ih =>
    refine ih.cons fun e he => ?_
    cases hd.symm.trans he
    exact ⟨_, standing?_of_leads hl hs, ha⟩

theorem Orderly.close (ho : Orderly h) (hs : standing? d h = some s) (answer : Unit) :
    Orderly (⟨.close d, answer⟩ :: h) := by
  refine ho.cons fun e he => ?_
  cases he
  exact ⟨s, hs, rfl⟩

/-- What an orderly history says of a call in it. -/
theorem Orderly.admitted (ho : Orderly (x :: h)) (hd : x.call.descriptor? = some d) :
    ∃ s, standing? d h = some s ∧ s.admits x.call := by
  have hx := (Option.all_eq_true _ _).1 ho.1 d hd
  rwa [Option.any_eq_true] at hx

end History

end SocketRelay
