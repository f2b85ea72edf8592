import SocketRelay.Proofs.Socket.Settling

/-!
# Where a readiness leaves the row of its socket

A socket that is open and has a row in the reactor's table either keeps both or loses both; nothing
else of the reactor changes. The row keeps its token and its owner. Its interest may fall behind
what the socket wants while phases run, and has caught up whenever a readiness has been handled.
-/
namespace SocketRelay
open SocketRelay.Action (Ends)

namespace Reactor
variable (r : Reactor) (d : Descriptor) (registration registration' : Registration)

theorem withTable_insert_insert :
    (r.withTable (r.table.insert d registration)).withTable
        ((r.withTable (r.table.insert d registration)).table.insert d registration') =
      r.withTable (r.table.insert d registration') :=
  congrArg r.withTable (Table.insert_insert ..)

theorem withTable_erase_insert :
    (r.withTable (r.table.insert d registration)).withTable
        ((r.withTable (r.table.insert d registration)).table.erase d) =
      r.withTable (r.table.erase d) :=
  congrArg r.withTable (Table.erase_insert ..)

end Reactor

namespace VirtualSocket

/-- The socket has ended and its row is gone, or both are there. If the row is `current`, its
interest is that of the socket. -/
inductive Placed (r : Reactor) (d : Descriptor) (registration : Registration) (current : Prop)
    (v : VirtualSocket) : Reactor → Prop
  | ended : v.closed → Placed r d registration current v (r.withTable (r.table.erase d))
  | held (interest) : v.live? = some d → (current → interest = v.interest) →
      Placed r d registration current v
        (r.withTable (r.table.insert d { registration with interest }))

variable {ctx : SocketContext} {settled steady current current' : Prop} {v v' : VirtualSocket}
variable {r r₁ r₂ : Reactor} {d : Descriptor} {registration : Registration}
variable {calls : List Exchange} {t : Traffic}

theorem placed_of_row (hd : v.live? = some d) (hr : r.table.get? d = some registration) :
    Placed r d registration False v r := by
  have hsame : r.withTable (r.table.insert d
      { registration with interest := registration.interest }) = r :=
    congrArg r.withTable (Table.insert_of_get? hr)
  have hheld : Placed r d registration False v _ := .held registration.interest hd False.elim
  rwa [hsame] at hheld

namespace Placed

theorem mono (h : Placed r d registration current v r₁) (hc : current' → current) :
    Placed r d registration current' v r₁ := by
  cases h with
  | ended hv => exact .ended hv
  | held interest hd hi => exact .held interest hd fun h => hi (hc h)

theorem eq_of_live? {e : Descriptor} (h : Placed r d registration current v r₁)
    (he : v.live? = some e) : e = d := by
  cases h with
  | ended hv => cases (live?_of_closed hv).symm.trans he
  | held interest hd => exact Option.some.inj (he.symm.trans hd)

theorem row (h : Placed r d registration current v r₁) (hd : v.live? = some d) :
    ∃ interest, r₁.table.get? d = some { registration with interest } := by
  cases h with
  | ended hv => cases (live?_of_closed hv).symm.trans hd
  | held interest => exact ⟨interest, Table.get?_insert_self ..⟩

/-- A socket that has ended has no row that could be out of date. -/
theorem of_closed (h : Placed r d registration current v r₁) (hv : v.closed) :
    Placed r d registration current' v r₁ := by
  cases h with
  | ended => exact .ended hv
  | held interest hd => cases (live?_of_closed hv).symm.trans hd

theorem unique (h : Placed r d registration True v r₁) (h' : Placed r d registration True v r₂) :
    r₁ = r₂ := by
  cases h with
  | ended hv =>
    cases h' with
    | ended => rfl
    | held interest hd => cases (live?_of_closed hv).symm.trans hd
  | held interest hd hi =>
    cases h' with
    | ended hv => cases (live?_of_closed hv).symm.trans hd
    | held interest' hd' hi' => rw [hi trivial, hi' trivial]

theorem renewed (h : Placed r d registration current v r₁) (hd : v.live? = some d)
    {before : Registration} (hr : r₁.table.get? d = some before) (interest : Interest)
    (hv' : v'.live? = some d) (hi : interest = v'.interest) :
    Placed r d registration True v'
      (r₁.withTable (r₁.table.insert d { before with interest })) := by
  cases h with
  | ended hv => cases (live?_of_closed hv).symm.trans hd
  | held interest' =>
    have hrow :
      (r.withTable (r.table.insert d { registration with interest := interest' })).table.get?
        d = some { registration with interest := interest' } := Table.get?_insert_self ..
    cases hrow.symm.trans hr
    rw [Reactor.withTable_insert_insert]
    exact .held interest hv' fun _ => hi

end Placed

theorem Deed.placed (h : Placed r d registration current v r₁)
    (hd : Deed ctx settled steady v r₁ calls t v' r₂) : Placed r d registration False v' r₂ := by
  cases h with
  | ended hv =>
    have hopen := hd.open
    rw [hv] at hopen
    cases hopen
  | held interest hlive =>
    have h : Placed r d registration False v _ := .held interest hlive False.elim
    have hheld : v.descriptor = some d := (live?_eq_some.1 hlive).2
    cases hd with
    | bound port hn | misfired hn | opened d' setup hn => cases hheld.symm.trans hn
    | idle | wrote | queued | flushed | settled | received => exact .held interest hlive False.elim
    | queuedFirst d' rest hd' _ _ _ hr | rearmed d' hd' hr =>
      cases hlive.symm.trans hd'
      refine (h.renewed hlive hr _ ?_ rfl).mono False.elim
      exact hlive
    | ended hv he hc =>
      rw [hheld] at hc
      cases hc <;> rw [Reactor.withTable_erase_insert] <;> exact .ended rfl

variable {κ : Type} {w w' : World κ}

theorem Conduct.placed (hc : Conduct ctx settled steady v w t v' w')
    (h : Placed r d registration False v w.reactor) :
    Placed r d registration False v' w'.reactor := by
  induction hc with
  | rest => exact h
  | deed _ hd hm ih =>
    rw [hm.reactor]
    exact hd.placed ih

/-- A row that has just been renewed is current. -/
theorem Rearmed.placed (hc : Rearmed ctx settled v w t v' w')
    (h : Placed r d registration False v w.reactor) :
    Placed r d registration True v' w'.reactor := by
  obtain ⟨w₁, e, before, hc, hd, hr, hm⟩ := hc
  have hafter := hc.placed h
  rw [hm.reactor]
  obtain rfl := hafter.eq_of_live? hd
  exact hafter.renewed hd hr _ hd rfl

variable [OperatingSystem κ]

theorem handleReady_placed {ready : Interest} (h : Placed r d registration current v w.reactor) :
    (v.handleReady ctx ready).Ends w fun x w' =>
      Placed r d registration True x.1 w'.reactor := by
  cases hlive : v.live? with
  | none =>
    rw [handleReady_of_live?_eq_none ctx hlive]
    refine Ends.pure ?_
    generalize w.reactor = r₁ at h
    cases h with
    | ended hv => exact .ended hv
    | held interest hd => cases hlive.symm.trans hd
  | some e =>
    have h₀ : Placed r d registration False v w.reactor := h.mono False.elim
    refine (handleReady_conduct ctx False hlive False.elim).mono fun x w' hafter => ?_
    obtain ⟨hc, hclosed | hrearmed⟩ := hafter
    · exact (hc.placed h₀).of_closed hclosed
    · exact hrearmed.placed h₀

end VirtualSocket

end SocketRelay
