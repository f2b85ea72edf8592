import SocketRelay.Proofs.Relay.Ownership
import SocketRelay.Proofs.Socket.Lifecycle

/-!
# Sockets between the steps of a relay

What is true of the fields of one socket is true of every socket in every table: the acts of a
session are conducts of its sockets, and what is not a conduct adds a socket, forgets one, or leaves
the table alone. A step that leaves a socket in its table has moved it on, if it has done anything
to it.

No assumption is made about the system. Between two calls it may do what it likes, and every call
may fail.
-/
namespace SocketRelay
open VirtualSocket (Advance Conduct Operation Reached)

namespace Session
variable {κ : Type} {settled steady : Prop} {s s' : Session} {w w' : World κ} {l : Log}
variable {k : SocketId} {v v' : VirtualSocket} {t : Traffic}

/-- Every socket is sound, has the number under which it is kept, and keeps to the limit. -/
def Upheld (s : Session) : Prop :=
  ∀ k v, s.sockets.get? k = some v →
    v.Sound ∧ v.id = k ∧ v.outbound.length ≤ s.settings.sendQueueLimit

/-- A socket that is in both tables is in a later state in the second. -/
def Onward (s s' : Session) : Prop :=
  ∀ k v v', s.sockets.get? k = some v → s'.sockets.get? k = some v' → Advance v v'

theorem Onward.of_subset (h : ∀ k v, s'.sockets.get? k = some v → s.sockets.get? k = some v) :
    Onward s s' := by
  intro k v v' hv hv'
  cases hv.symm.trans (h k v' hv')
  exact .refl v

theorem Upheld.of_subset (hu : s.Upheld) (hsettings : s'.settings = s.settings)
    (h : ∀ k v, s'.sockets.get? k = some v → s.sockets.get? k = some v) : s'.Upheld := by
  intro k v hv
  rw [hsettings]
  exact hu k v (h k v hv)

theorem Upheld.conduct (hu : s.Upheld) (hv : s.sockets.get? k = some v)
    (hc : Conduct s.context settled steady v w t v' w') :
    (s.store k v').Upheld ∧ Onward s (s.store k v') := by
  obtain ⟨hsound, hid, hlimit⟩ := hu k v hv
  obtain ⟨hadvance, hsound', hlimit'⟩ := hc.advance hsound hlimit
  constructor
  · intro j u hj
    rw [store, Table.get?_insert] at hj
    split at hj
    · rename_i hjk
      cases hj
      exact ⟨hsound', by rw [hadvance.id, hid, hjk], hlimit'⟩
    · exact hu j u hj
  · intro j u u' hj hj'
    rw [store, Table.get?_insert] at hj'
    split at hj'
    · rename_i hjk
      cases hj'
      rw [hjk, hv] at hj
      cases hj
      exact hadvance
    · cases hj.symm.trans hj'
      exact .refl u

theorem Upheld.act (hu : s.Upheld) (ha : Act settled s w l s' w') :
    s'.Upheld ∧ Onward s s' := by
  cases ha with
  | acted k hv hc => exact hu.conduct hv hc
  | unarmed k d hv _ _ _ hc => exact hu.conduct hv hc
  | handled note queue _ hv hc => exact hu.conduct (handler?_eq_some hv).2.1 hc
  | dropped | closed => exact ⟨hu, .of_subset fun _ _ h => h⟩
  | forgot p =>
    have hsub : ∀ k v, (s.sockets.filter p).get? k = some v → s.sockets.get? k = some v := by
      intro k v hv
      rw [Table.get?_filter, Option.filter_eq_some_iff] at hv
      exact hv.1
    exact ⟨hu.of_subset rfl hsub, .of_subset hsub⟩

/-- A course leads from act to act; a socket that is there at the end has been there all along. -/
theorem Upheld.course (hu : s.Upheld) (hc : Course settled s w l s' w') :
    s'.Upheld ∧ Onward s s' := by
  induction hc with
  | rest => exact ⟨hu, .of_subset fun _ _ h => h⟩
  | @act l s' w' l' s'' w'' _ ha ih =>
    obtain ⟨hu', honward⟩ := ih
    obtain ⟨hu'', honward'⟩ := hu'.act ha
    refine ⟨hu'', ?_⟩
    intro k v v'' hv hv''
    cases hmid : s'.sockets.get? k with
    | none =>
      rw [(ha.absent hmid).1] at hv''
      cases hv''
    | some v' => exact (honward k v v' hv hmid).trans (honward' k v' v'' hmid hv'')

theorem Upheld.added (hu : s.Upheld) (hk : s.sockets.get? k = none) (kind : SocketKind) :
    (s.store k { id := k, kind }).Upheld ∧ Onward s (s.store k { id := k, kind }) := by
  constructor
  · intro j u hj
    rw [store, Table.get?_insert] at hj
    split at hj
    · rename_i hjk
      cases hj
      exact ⟨VirtualSocket.sound_new k kind, hjk.symm, Nat.zero_le _⟩
    · exact hu j u hj
  · intro j u u' hj hj'
    rw [store, Table.get?_insert] at hj'
    split at hj'
    · rename_i hjk
      rw [hjk, hk] at hj
      cases hj
    · cases hj.symm.trans hj'
      exact .refl u

end Session

namespace Relay
open Session (Upheld Onward)
variable {κ : Type} {settled : Prop} {r r' : Relay κ} {x : Input κ} {l : Log}
  {frames : List Outgoing}

def AllUpheld (r : Relay κ) : Prop := ∀ (i : Nat) (s : Session), r.sessions[i]? = some s → s.Upheld

theorem AllUpheld.put (hu : r.AllUpheld) {i : Nat} {s s' : Session} {world : World κ}
    (hs : r.sessions[i]? = some s) (h : s'.Upheld ∧ Onward s s') :
    (r.put i s' world).AllUpheld ∧
      ∀ j k v v', r.socket? j k = some v → (r.put i s' world).socket? j k = some v' →
        Advance v v' := by
  constructor
  · intro j s'' hj
    rw [sessions_put hs] at hj
    split at hj
    · cases hj
      exact h.1
    · exact hu j s'' hj
  · intro j k v v' hv hv'
    rw [socket?_put hs] at hv'
    split at hv'
    · rename_i hj
      rw [hj, socket?_of_session hs] at hv
      exact h.2 k v v' hv hv'
    · cases hv.symm.trans hv'
      exact .refl v

variable [OperatingSystem κ]

theorem AllUpheld.turn (hu : r.AllUpheld) (ht : Turn settled r x l frames r') :
    r'.AllUpheld ∧
      ∀ j k v v', r.socket? j k = some v → r'.socket? j k = some v' → Advance v v' := by
  have hsame : ∀ j k v v', r.socket? j k = some v → r.socket? j k = some v' → Advance v v' := by
    intro j k v v' hv hv'
    cases hv.symm.trans hv'
    exact .refl v
  cases ht with
  | served i hx hs hc => exact hu.put hs ((hu i _ hs).course hc)
  | opened i k kind hx hs _ _ hk hs' =>
    rw [hs']
    exact hu.put hs ((hu i _ hs).added hk kind)
  | entered settings =>
    constructor
    · intro j s hj
      rw [sessions_enter] at hj
      split at hj
      · cases hj
        exact nofun
      · exact hu j s hj
    · intro j k v v' hv hv'
      rw [socket?_enter] at hv'
      exact hsame j k v v' hv hv'
  | absent | unpolled | polled | elapsed => exact ⟨hu, hsame⟩

theorem allUpheld_run (system : κ) (maxEvents : Nat) (xs : List (Input κ)) :
    ((start system maxEvents).run xs).AllUpheld := by
  have hstart : (start system maxEvents).AllUpheld := nofun
  exact run_preserves (q := fun _ => True) (fun _ _ _ => trivial)
    (fun _ _ _ _ _ _ hu ht _ => (hu.turn ht).1) (allOpen_start system maxEvents) hstart trivial

/-- In every state of every run the tables and the fields of their sockets are as they should be,
and every step moves the sockets on that it leaves. The same holds of a socket by itself under any
operations, and an operation of a closed one changes nothing. -/
theorem sockets_represented :
    (∀ (system : κ) (maxEvents : Nat) (xs : List (Input κ)) (i : Nat) (s : Session),
      ((start system maxEvents).run xs).sessions[i]? = some s →
        s.sockets.size ≤ s.settings.maxSockets ∧
          ∀ k v, s.sockets.get? k = some v →
            v.id = k ∧ v.closed = false ∧ v.Represented s.settings.sendQueueLimit) ∧
    (∀ (system : κ) (maxEvents : Nat) (xs : List (Input κ)) (x : Input κ) (i : Nat) (k : SocketId)
      (v v' : VirtualSocket), ((start system maxEvents).run xs).socket? i k = some v →
        (((start system maxEvents).run xs).step x).1.socket? i k = some v' → Advance v v') ∧
    ∀ (ctx : SocketContext) (v : VirtualSocket), Reached κ ctx v →
      v.Represented ctx.settings.sendQueueLimit ∧
        ∀ (operation : Operation) (w : World κ),
          Advance v (operation.run ctx v w).1.socket ∧
            (v.closed → ∃ result, operation.run ctx v w = ({ socket := v, result }, w) ∧
              if operation.isRequest then ∃ e, result = .error e else result = .ok ()) := by
  refine ⟨?_, ?_, ?_⟩
  · intro system maxEvents xs i s hs
    have hformed := (allFormed_start system maxEvents).run (allOpen_start system maxEvents) xs
    have hopen := allOpen_run (allOpen_start system maxEvents) xs
    refine ⟨(hformed i s hs).size, ?_⟩
    intro k v hv
    obtain ⟨hsound, hid, hlimit⟩ := allUpheld_run system maxEvents xs i s hs k v hv
    exact ⟨hid, hopen i s hs k v hv, hsound.represented hlimit⟩
  · intro system maxEvents xs x i k v v' hv hv'
    have hopen := allOpen_run (allOpen_start system maxEvents) xs
    obtain ⟨l, hturn⟩ := step_turn False hopen x False.elim
    exact ((allUpheld_run system maxEvents xs).turn hturn).2 i k v v' hv hv'
  · intro ctx v hv
    obtain ⟨hsound, hlimit⟩ := hv.sound
    refine ⟨hsound.represented hlimit, ?_⟩
    intro operation w
    exact ⟨(operation.advance hsound hlimit w).1, fun hc => operation.inert ctx hsound hc w⟩

end Relay

end SocketRelay
