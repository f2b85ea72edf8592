import SocketRelay.System.World

/-!
# What a history tells

Calls with their answers determine which descriptors are open, what the interest list of the system
holds, and which bytes the system took for a descriptor. All of it is read off a history, newest
exchange first; a call that failed changed nothing.

Nothing here assumes that the system behaves. Assumptions are properties of a history too:
`Throughout p` says that every exchange stood in the relation `p` to the exchanges before it.
-/
namespace SocketRelay

/-- The calls with their answers, newest first. -/
abbrev History := List Exchange

structure Watch where
  bits : UInt32
  token : Token
  /-- A one-shot entry that has reported is silent until it is modified. -/
  armed : Bool
  deriving DecidableEq, Repr

/-- The entry after a wait with these reports. -/
def Watch.afterReports (s : Watch) (reports : List (UInt32 × Token)) : Watch :=
  if EpollBits.meets s.bits EpollBits.oneShot ∧ s.token ∈ reports.map Prod.snd then
    { s with armed := false }
  else s

/-- The descriptor that a call opened. -/
def Exchange.opened? : Exchange → Option Descriptor
  | ⟨.openSocket _, .ok d⟩ => some d
  | _ => none

/-- The bytes that the system took in a send on this descriptor. -/
def Exchange.sentTo (d : Descriptor) : Exchange → Bytes
  | ⟨.send d' data, .ok n⟩ => if d' = d then data.take n else []
  | _ => []

namespace History

/-- The descriptors that are open, the latest first. -/
def openDescriptors : History → List Descriptor
  | [] => []
  | ⟨.openSocket _, .ok d⟩ :: h => d :: openDescriptors h
  | ⟨.close d, _⟩ :: h => (openDescriptors h).filter (· ≠ d)
  | _ :: h => openDescriptors h

/-- The entry of a descriptor in the interest list. A descriptor leaves the list when it is closed,
and a fresh one is not in it. -/
def watch? (d : Descriptor) : History → Option Watch
  | [] => none
  | ⟨.openSocket _, .ok d'⟩ :: h => if d' = d then none else watch? d h
  | ⟨.close d', _⟩ :: h => if d' = d then none else watch? d h
  | ⟨.epollAdd d' bits token, .ok _⟩ :: h =>
    if d' = d then some ⟨bits, token, true⟩ else watch? d h
  | ⟨.epollModify d' bits token, .ok _⟩ :: h =>
    if d' = d then (watch? d h).map fun _ => ⟨bits, token, true⟩ else watch? d h
  | ⟨.epollRemove d', .ok _⟩ :: h => if d' = d then none else watch? d h
  | ⟨.epollWait _, .ok reports⟩ :: h => (watch? d h).map (·.afterReports reports)
  | _ :: h => watch? d h

/-- How often the system gave this number to a socket. -/
def openings (d : Descriptor) : History → Nat
  | [] => 0
  | x :: h => if x.opened? = some d then openings d h + 1 else openings d h

/-- The bytes that the system took for the `n`-th socket of this number, in order. -/
def sentOn (d : Descriptor) (n : Nat) : History → Bytes
  | [] => []
  | x :: h => if openings d h = n then sentOn d n h ++ x.sentTo d else sentOn d n h

/-- The bytes that the system took in some sends, whatever their descriptors. -/
def taken : History → Bytes
  | [] => []
  | ⟨.send _ data, .ok n⟩ :: h => taken h ++ data.take n
  | _ :: h => taken h

theorem taken_cons (x : Exchange) (h : History) : taken (x :: h) = taken h ++ taken [x] := by
  obtain ⟨call, answer⟩ := x
  cases call with
  | send d data =>
    cases answer with
    | ok n => rfl
    | error e => exact (List.append_nil _).symm
  | _ => exact (List.append_nil _).symm

theorem taken_append (calls h : History) : taken (calls ++ h) = taken h ++ taken calls := by
  induction calls with
  | nil => exact (List.append_nil _).symm
  | cons x calls ih =>
    rw [List.cons_append, taken_cons, ih, List.append_assoc, ← taken_cons]

end History

/-- An exchange that changes neither what is open nor what is watched. -/
def Exchange.Inert (x : Exchange) : Prop :=
  ∀ h, History.openDescriptors (x :: h) = History.openDescriptors h ∧
    ∀ d, History.watch? d (x :: h) = History.watch? d h

namespace History

theorem openDescriptors_append {calls : List Exchange} (hc : ∀ x ∈ calls, x.Inert) (h : History) :
    openDescriptors (calls ++ h) = openDescriptors h := by
  induction calls with
  | nil => rfl
  | cons x calls ih =>
    obtain ⟨hx, hc⟩ := List.forall_mem_cons.1 hc
    rw [List.cons_append, (hx _).1, ih hc]

theorem watch?_append {calls : List Exchange} (hc : ∀ x ∈ calls, x.Inert) (h : History)
    (d : Descriptor) : watch? d (calls ++ h) = watch? d h := by
  induction calls with
  | nil => rfl
  | cons x calls ih =>
    obtain ⟨hx, hc⟩ := List.forall_mem_cons.1 hc
    rw [List.cons_append, (hx _).2, ih hc]

/-- Every exchange stands in this relation to the exchanges before it. -/
def Throughout (p : Exchange → History → Bool) : History → Prop
  | [] => True
  | e :: h => p e h ∧ Throughout p h

instance Throughout.decidable (p : Exchange → History → Bool) :
    (h : History) → Decidable (Throughout p h)
  | [] => isTrue trivial
  | e :: h =>
    have := decidable p h
    inferInstanceAs (Decidable (p e h ∧ Throughout p h))

theorem Throughout.of_append {p : Exchange → History → Bool} {calls h : History}
    (hp : Throughout p (calls ++ h)) : Throughout p h := by
  induction calls with
  | nil => exact hp
  | cons e calls ih => exact ih hp.2

/-- A socket that is opened gets a number that is not open. -/
abbrev OpensFresh : History → Prop := Throughout fun e h =>
  match e with
  | ⟨.openSocket _, .ok d⟩ => d ∉ openDescriptors h
  | _ => true

/-- Modifying an entry that is in the interest list does not fail. -/
abbrev ModifiesListed : History → Prop := Throughout fun e h =>
  match e with
  | ⟨.epollModify d _ _, .error _⟩ => watch? d h = none
  | _ => true

/-- A read fills its buffer at most. -/
abbrev ReadsWithin : History → Prop := Throughout fun e _ =>
  match e with
  | ⟨.recv _ size, .ok data⟩ => data.length ≤ size
  | _ => true

/-- A read yields at most what one system call transfers, which is a page less than 2 GiB. -/
abbrev ReadsBounded : History → Prop := Throughout fun e _ =>
  match e with
  | ⟨.recv _ _, .ok data⟩ => data.length ≤ 2147479552
  | _ => true

theorem fresh_of_opensFresh (calls : History) {h : History} {kind : SocketKind} {d : Descriptor}
    (hf : OpensFresh (calls ++ ⟨.openSocket kind, .ok d⟩ :: h)) : d ∉ openDescriptors h :=
  of_decide_eq_true (Throughout.of_append hf).1

/-- A descriptor that is opened and given up again leaves no trace, if nothing that is not open is
watched. -/
theorem opened_and_closed (calls : History) {h : History} {kind : SocketKind} {d : Descriptor}
    (hc : ∀ x ∈ calls, x.Inert) (hd : d ∉ openDescriptors h) (hw : watch? d h = none) :
    openDescriptors (⟨.close d, ()⟩ :: (calls ++ ⟨.openSocket kind, .ok d⟩ :: h)) =
        openDescriptors h ∧
      ∀ e, watch? e (⟨.close d, ()⟩ :: (calls ++ ⟨.openSocket kind, .ok d⟩ :: h)) = watch? e h := by
  constructor
  · rw [openDescriptors, openDescriptors_append hc, openDescriptors]
    have : (openDescriptors h).filter (· ≠ d) = openDescriptors h :=
      List.filter_eq_self.2 fun e he => by
        have hne : e ≠ d := fun h => hd (h ▸ he)
        simpa using hne
    simpa using this
  · intro e
    rw [watch?, watch?_append hc, watch?]
    split
    · rename_i hde
      rw [← hde, hw]
    · rfl

theorem nodup_openDescriptors {h : History} (hf : OpensFresh h) : (openDescriptors h).Nodup := by
  induction h with
  | nil => exact List.nodup_nil
  | cons e h ih =>
    have ih := ih hf.2
    have hp := hf.1
    unfold openDescriptors
    split <;> simp_all
    exact ih.filter _

end History

end SocketRelay
