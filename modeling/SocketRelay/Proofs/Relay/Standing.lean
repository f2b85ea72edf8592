import SocketRelay.Proofs.Relay.Ownership
import SocketRelay.Proofs.Socket.Standing

/-!
# Calls in order

In every state of a relay every call so far was admitted by the standing of the real socket that it
was on, and every virtual socket that holds a descriptor is seated. Deeds keep this for the socket
that acts; the others are on descriptors of their own, which are left where they are. The reactor
only waits and arms again, and that is always admitted.
-/
namespace SocketRelay
open History (OpensFresh Orderly standing?)
open VirtualSocket (Deed Conduct)

namespace Reactor
variable {κ : Type}

theorem Polling.leaves_eq {x : Exchange} (hx : Polling x) (d : Descriptor)
    (before : Option Standing) : x.leaves d before = before := by
  cases hx with
  | waited => rfl
  | armed e bits token answer =>
    change (if some e = some d then before.map fun s => s else before) = before
    rw [Option.map_id_fun', id, ite_self]

theorem polling_standing_eq {calls : History} (hc : ∀ x ∈ calls, Polling x) (d : Descriptor)
    (h : History) : standing? d (calls ++ h) = standing? d h := by
  induction calls with
  | nil => rfl
  | cons x calls ih =>
    obtain ⟨hx, hc⟩ := List.forall_mem_cons.1 hc
    rw [List.cons_append, standing?, hx.leaves_eq, ih hc]

/-- Registrations whose notes did not fit are armed again, on open sockets. -/
theorem Delivery.orderly {w w' : World κ} {notes : List (MailboxId × Readiness)}
    (hd : Delivery w notes w')
    (hrows : ∀ d, w.reactor.table.get? d ≠ none → ∃ s, standing? d w.history = some s)
    (ho : Orderly w.history) : Orderly w'.history := by
  induction hd with
  | done => exact ho
  | posted _ _ ih => exact ih hrows ho
  | stale _ _ ih => exact ih hrows ho
  | @rearmed w w₁ m note registration rest w' answer hr ht hm _ ih =>
    have hpolling :=
      Polling.armed note.token.descriptor registration.interest.toEpoll note.token answer
    refine ih (fun d hrow => ?_) ?_
    · rw [hm.reactor] at hrow
      obtain ⟨s, hs⟩ := hrows d hrow
      exact ⟨s, by rw [hm.history, polling_standing_eq (List.forall_mem_singleton.2 hpolling), hs]⟩
    · obtain ⟨s, hs⟩ := hrows note.token.descriptor (by rw [hr]; exact nofun)
      rw [hm.history]
      refine ho.cons fun d hd => ?_
      cases hd
      exact ⟨s, hs, rfl⟩

end Reactor

namespace Relay
variable {κ : Type} {r r' : Relay κ} {i : Nat} {k : SocketId} {s s' : Session}
  {v v' : VirtualSocket}
variable {w' : World κ}

/-- All that is held is accounted for, every call was admitted, and every socket that holds a
descriptor is seated. -/
structure Regular (r : Relay κ) : Prop where
  owned : r.Owned
  orderly : Orderly r.world.history
  seated : ∀ i k v, r.socket? i k = some v → v.Seated r.world.history

/-- A descriptor that a socket holds has a standing. -/
theorem Regular.standing_of_row (h : r.Regular) {d : Descriptor}
    (hrow : r.world.reactor.table.get? d ≠ none) : ∃ s, standing? d r.world.history = some s := by
  obtain ⟨registration, hr⟩ := Option.ne_none_iff_exists'.1 hrow
  obtain ⟨v, hv, hd, -⟩ := h.owned.matched.owner d registration hr
  exact ⟨_, h.seated _ _ v hv d hd⟩

theorem Regular.quiet (h : r.Regular) (ho : r'.Owned) (hc : r'.world.history = r.world.history)
    (hsub : ∀ i k v, r'.socket? i k = some v → v.descriptor ≠ none → r.socket? i k = some v) :
    r'.Regular := by
  refine ⟨ho, hc ▸ h.orderly, fun i k v hv d hd => ?_⟩
  rw [hc]
  exact h.seated i k v (hsub i k v hv (by rw [hd]; exact nofun)) d hd

theorem Regular.deed (h : r.Regular) {settled steady : Prop} {calls : List Exchange} {t : Traffic}
    {rx : Reactor} (hs : r.sessions[i]? = some s) (hv : s.sockets.get? k = some v)
    (hd : Deed s.context settled steady v r.world.reactor calls t v' rx)
    (hm : r.world.Moved calls rx w') (hf : OpensFresh w'.history) :
    (r.put i (s.store k v') w').Regular := by
  have hik : r.socket? i k = some v := (socket?_of_session hs k).trans hv
  have howned := h.owned.deed hs hv hd hm hf
  have hcalls := hm.history
  rw [hcalls] at hf
  obtain ⟨horderly, hseated⟩ := hd.seated (h.owned.sound i k v hik).1 (h.seated i k v hik) h.orderly
  refine ⟨howned, ?_, fun j m u hu e he => ?_⟩
  · change Orderly w'.history
    rwa [hcalls]
  change standing? e w'.history = _
  rw [hcalls]
  rw [socket?_store hs] at hu
  split at hu
  · cases hu
    exact hseated e he
  · rename_i hother
    obtain ⟨-, -, -, -, -, -, hopen, -⟩ := h.owned.row hu he
    have hne : v.descriptor ≠ some e := by
      intro hve
      obtain ⟨rfl, rfl⟩ := h.owned.alone hik hve hu he
      exact hother ⟨rfl, rfl⟩
    rw [hd.standing_eq hne hopen hf]
    exact h.seated j m u hu e he

theorem Regular.conduct (h : r.Regular) {settled steady : Prop} {t : Traffic}
    (hs : r.sessions[i]? = some s) (hv : s.sockets.get? k = some v)
    (hc : Conduct s.context settled steady v r.world t v' w') (hf : OpensFresh w'.history) :
    (r.put i (s.store k v') w').Regular :=
  conduct_preserves (p := fun r _ => r.Regular) (fun _ _ => History.Throughout.of_append)
    (fun h hs hv hd hm hf => h.deed hs hv hd hm hf) hs hv hc h hf

theorem Regular.withQueue (h : r.Regular) (id : MailboxId) (queue : List Readiness) :
    Regular { r with world := r.world.withQueue id queue } :=
  h.quiet (h.owned.withQueue id queue) rfl fun _ _ _ hv _ => hv

theorem Regular.act (h : r.Regular) {settled : Prop} {l : Log} (hs : r.sessions[i]? = some s)
    (ha : Session.Act settled s r.world l s' w') (hf : OpensFresh w'.history) :
    (r.put i s' w').Regular := by
  have howned := h.owned.act hs ha hf
  cases ha with
  | acted k hv hc => exact h.conduct hs hv hc hf
  | unarmed k d hv hd hc hfail hc' => exact h.conduct hs hv hc' hf
  | dropped note queue =>
    rw [put_same hs]
    exact h.withQueue s.mailbox queue
  | @handled v t v' w' note queue hq hv hc hr =>
    exact (h.withQueue s.mailbox queue).conduct hs (Session.handler?_eq_some hv).2.1 hc hf
  | forgot p =>
    exact h.quiet howned rfl fun j m u hu _ => ((socket?_forgot hs p j m u).1 hu).1
  | closed =>
    refine h.quiet howned rfl fun j m u hu _ => ?_
    rwa [socket?_closed hs] at hu

theorem Regular.turn [OperatingSystem κ] (h : r.Regular) {settled : Prop} {x : Input κ} {l : Log}
    {frames : List Outgoing} (ht : Turn settled r x l frames r')
    (hf : OpensFresh r'.world.history) :
    r'.Regular := by
  have howned := h.owned.turn ht hf
  cases ht with
  | absent i hx hn => exact h
  | served i hx hs hc =>
    exact course_preserves (p := fun r _ => r.Regular) (fun _ _ => History.Throughout.of_append)
      (fun h hs ha hf => h.act hs ha hf) hs hc h hf
  | opened i k kind hx hs hc hz hk hs' =>
    refine h.quiet howned rfl fun j m u hu hheld => ?_
    rw [hs', socket?_store hs] at hu
    split at hu
    · cases hu
      exact (hheld rfl).elim
    · exact hu
  | entered settings => exact h.quiet howned rfl fun j m u hu _ => socket?_enter r settings j m ▸ hu
  | @unpolled e w' hm =>
    refine ⟨howned, ?_, fun j m u hu d hd => ?_⟩
    · change Orderly w'.history
      rw [hm.history]
      exact h.orderly.cons nofun
    · change standing? d w'.history = _
      rw [hm.history, Reactor.polling_standing_eq (List.forall_mem_singleton.2 (.waited _ _))]
      exact h.seated j m u hu d hd
  | @polled reports w₁ w' hm hd =>
    have hstanding : ∀ d, standing? d w₁.history = standing? d r.world.history := by
      intro d
      rw [hm.history, Reactor.polling_standing_eq (List.forall_mem_singleton.2 (.waited _ _))]
    refine ⟨howned, hd.orderly (fun d hrow => ?_) ?_, fun j m u hu d hheld => ?_⟩
    · rw [hm.reactor] at hrow
      rw [hstanding]
      exact h.standing_of_row hrow
    · rw [hm.history]
      exact h.orderly.cons nofun
    · obtain ⟨calls, hc, hpolling⟩ := hd.round hm
      change standing? d w'.history = _
      rw [hc, Reactor.polling_standing_eq hpolling]
      exact h.seated j m u hu d hheld
  | elapsed system now => exact h.quiet howned rfl fun _ _ _ hv _ => hv

theorem regular_start (system : κ) (maxEvents : Nat) : (start system maxEvents).Regular := by
  refine ⟨owned_start system maxEvents, trivial, fun i k v hv => ?_⟩
  cases hv

theorem Regular.run [OperatingSystem κ] (h : r.Regular) (ho : r.AllOpen) {xs : List (Input κ)}
    (hf : OpensFresh (r.run xs).world.history) : (r.run xs).Regular :=
  run_preserves (fun _ _ => History.Throughout.of_append) (fun _ _ _ _ _ _ h ht hf => h.turn ht hf)
    ho h hf

theorem regular_run [OperatingSystem κ] {system : κ} {maxEvents : Nat} {xs : List (Input κ)}
    (hf : OpensFresh ((start system maxEvents).run xs).world.history) :
    ((start system maxEvents).run xs).Regular :=
  (regular_start system maxEvents).run (allOpen_start system maxEvents) hf

end Relay

end SocketRelay
