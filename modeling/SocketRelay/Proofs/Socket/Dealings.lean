import SocketRelay.Proofs.Socket.Confinement
import SocketRelay.Proofs.Socket.Stream

/-!
# What is done with one real socket

A number of a descriptor is given out many times; `dealings` are the calls on one real socket, which
is named as in streams by its number and by how often that number had been given out. What is sent
on it and what is read from it is read off its dealings.

Others have no part in them. A deed of another virtual socket is on another descriptor, and a number
that is given out anew starts new dealings. The reactor modifies entries of the interest list for
all sockets alike, so such a call is not counted.
-/
namespace SocketRelay

/-- The descriptor of the socket that a call deals with. -/
def Exchange.dealing? (x : Exchange) : Option Descriptor :=
  match x.call with
  | .epollModify _ _ _ => none
  | call => call.descriptor?

theorem Exchange.descriptor?_of_dealing? {x : Exchange} {d : Descriptor} (h : x.dealing? = some d) :
    x.call.descriptor? = some d := by
  unfold dealing? at h
  split at h
  · cases h
  · exact h

namespace History
variable {d : Descriptor} {n : Nat} {calls h : History}

/-- The calls on the `n`-th socket of this number, in order. -/
def dealings (d : Descriptor) (n : Nat) : History → List Exchange
  | [] => []
  | x :: h =>
    if openings d h = n ∧ x.dealing? = some d then dealings d n h ++ [x] else dealings d n h

theorem dealings_append (hc : ∀ x ∈ calls, x.dealing? ≠ some d) (n : Nat) (h : History) :
    dealings d n (calls ++ h) = dealings d n h := by
  induction calls with
  | nil => rfl
  | cons x calls ih =>
    obtain ⟨hx, hc⟩ := List.forall_mem_cons.1 hc
    rw [List.cons_append, dealings, if_neg fun hd => hx hd.2, ih hc]

/-- Nothing more is done with a socket after its number was given to another one. -/
theorem dealings_append_of_lt (hn : n < openings d h) (calls : History) :
    dealings d n (calls ++ h) = dealings d n h := by
  induction calls with
  | nil => rfl
  | cons x calls ih =>
    have hlt := Nat.lt_of_lt_of_le hn (openings_le_append d calls h)
    rw [List.cons_append, dealings, if_neg fun hd => Nat.ne_of_gt hlt hd.1, ih]

theorem dealings_of_openings_lt (hn : openings d h < n) : dealings d n h = [] := by
  induction h with
  | nil => rfl
  | cons x h ih =>
    have hlt := Nat.lt_of_le_of_lt (openings_le_append d [x] h) hn
    rw [dealings, if_neg fun hd => Nat.ne_of_lt hlt hd.1, ih hlt]

/-- What was sent on a socket is part of what was done with it. -/
theorem sentOn_eq_dealings (d : Descriptor) (n : Nat) (h : History) :
    sentOn d n h = (dealings d n h).flatMap (·.sentTo d) := by
  induction h with
  | nil => rfl
  | cons x h ih =>
    rw [sentOn, dealings, ih]
    by_cases hn : openings d h = n
    · by_cases hx : x.dealing? = some d
      · rw [if_pos hn, if_pos ⟨hn, hx⟩, List.flatMap_append, List.flatMap_singleton]
      · have hnone : x.sentTo d = [] := by
          unfold Exchange.sentTo
          split
          · exact if_neg fun hd => hx (congrArg some hd)
          · rfl
        rw [if_pos hn, if_neg fun hd => hx hd.2, hnone, List.append_nil]
    · rw [if_neg hn, if_neg fun hd => hn hd.1]

/-- These calls have nothing to do with the socket that has the number now. -/
structure Spared (d : Descriptor) (calls h : History) : Prop where
  openings : openings d (calls ++ h) = openings d h
  dealings : ∀ n, dealings d n (calls ++ h) = dealings d n h

theorem Spared.sentOn (hs : Spared d calls h) (n : Nat) :
    sentOn d n (calls ++ h) = sentOn d n h := by
  rw [sentOn_eq_dealings, hs.dealings, sentOn_eq_dealings]

end History

namespace VirtualSocket
open History (OpensFresh openDescriptors openings dealings Past Spared)
variable {ctx : SocketContext} {settled steady : Prop} {v v' : VirtualSocket} {r r' : Reactor}
variable {calls : List Exchange} {t : Traffic} {d : Descriptor} {h : History}

theorem Closing.on (h : Closing r (some d) calls r') :
    ∀ x ∈ calls, x.call.descriptor? = some d := by
  cases h with
  | unwatched => exact List.forall_mem_singleton.2 rfl
  | watched => exact List.forall_mem_cons.2 ⟨rfl, List.forall_mem_singleton.2 rfl⟩

/-- A deed is done on the descriptor of its socket, or it begins with asking for one. -/
theorem Deed.on (hd : Deed ctx settled steady v r calls t v' r') :
    (∀ x ∈ calls, ∀ d, x.call.descriptor? = some d → v.descriptor = some d) ∨
      ∃ later kind e, calls = later ++ [⟨.openSocket kind, .ok e⟩] ∧
        ∀ x ∈ later, x.call.descriptor? = some e := by
  have hown : ∀ {e}, v.live? = some e → (∀ x ∈ calls, x.call.descriptor? = some e) →
      ∀ x ∈ calls, ∀ d, x.call.descriptor? = some d → v.descriptor = some d := by
    intro e he hon x hx d hxd
    rw [hon x hx] at hxd
    exact hxd ▸ (live?_eq_some.1 he).2
  have hsetup : ∀ {x setup e}, x.call.descriptor? = some e → (∀ y ∈ setup, Preparing ctx v e y) →
      ∀ y ∈ x :: setup, y.call.descriptor? = some e :=
    fun hx hs => List.forall_mem_cons.2 ⟨hx, fun y hy => (hs y hy).on⟩
  cases hd with
  | bound | queued => exact .inl nofun
  | idle e x he hx => exact .inl (hown he (List.forall_mem_singleton.2 hx.on))
  | misfired hn hc hm =>
    cases hm with
    | unopened error => exact .inl (List.forall_mem_singleton.2 nofun)
    | undone e setup hs => exact .inr ⟨_, v.kind, e, rfl, hsetup rfl hs⟩
    | unwatched e setup bits token error hs =>
      exact .inr ⟨_, v.kind, e, rfl, List.forall_mem_cons.2 ⟨rfl, hsetup rfl hs⟩⟩
  | opened e setup hn hc hb hs => exact .inr ⟨_, v.kind, e, rfl, hsetup rfl hs⟩
  | wrote e data n he => exact .inl (hown he (List.forall_mem_singleton.2 rfl))
  | queuedFirst e rest he => exact .inl (hown he (List.forall_mem_singleton.2 rfl))
  | rearmed e he => exact .inl (hown he (List.forall_mem_singleton.2 rfl))
  | settled e answer he | received e data he =>
    exact .inl (hown he (List.forall_mem_singleton.2 rfl))
  | flushed e he hn hr => exact .inl (hown he hr.on)
  | ended hc he hcl =>
    refine .inl fun x hx d hxd => ?_
    cases hheld : v.descriptor with
    | none =>
      rw [hheld] at hcl
      cases hcl
      rw [he.bare hheld] at hx
      cases hx
    | some e =>
      rw [hheld] at hcl
      rcases List.mem_append.1 hx with hx | hx
      · exact (hcl.on x hx).symm.trans hxd
      · exact (he.on hheld x hx).symm.trans hxd

theorem dealing?_of_opening {later : List Exchange} {kind : SocketKind} {e : Descriptor}
    (hlater : ∀ x ∈ later, x.call.descriptor? = some e) (hne : e ≠ d) :
    ∀ x ∈ later ++ [⟨.openSocket kind, .ok e⟩], x.dealing? ≠ some d := by
  intro x hx hxd
  rcases List.mem_append.1 hx with hx | hx
  · have hon := (hlater x hx).symm.trans (Exchange.descriptor?_of_dealing? hxd)
    exact hne (Option.some.inj hon)
  · rw [List.mem_singleton.1 hx] at hxd
    cases hxd

/-- A deed has nothing to do with a descriptor that is open and not that of its socket. -/
theorem Deed.spared (hd : Deed ctx settled steady v r calls t v' r') (hne : v.descriptor ≠ some d)
    (ho : d ∈ openDescriptors h) (hf : OpensFresh (calls ++ h)) : Spared d calls h := by
  refine ⟨hd.openings_eq ho hf, fun n => History.dealings_append ?_ n h⟩
  rcases hd.on with hown | ⟨later, kind, e, rfl, hlater⟩
  · exact fun x hx hxd => hne (hown x hx d (Exchange.descriptor?_of_dealing? hxd))
  · refine dealing?_of_opening hlater ?_
    rintro rfl
    rw [List.append_assoc] at hf
    exact History.fresh_of_opensFresh later hf ho

theorem Deed.dealings_past (hd : Deed ctx settled steady v r calls t v' r')
    (hv : ∀ e, v.descriptor = some e → e ∈ openDescriptors h) {n : Nat} (hp : Past d n h) :
    dealings d n (calls ++ h) = dealings d n h := by
  rcases hp with hlt | ⟨hn, hclosed⟩
  · exact History.dealings_append_of_lt hlt calls
  rcases hd.on with hown | ⟨later, kind, e, rfl, hlater⟩
  · refine History.dealings_append (fun x hx hxd => ?_) n h
    exact hclosed (hv d (hown x hx d (Exchange.descriptor?_of_dealing? hxd)))
  · by_cases hed : e = d
    · subst hed
      have hanew : openings e (⟨.openSocket kind, .ok e⟩ :: h) = openings e h + 1 := if_pos rfl
      rw [List.append_assoc, History.dealings_append_of_lt (by rw [List.singleton_append]; omega)]
      exact History.dealings_append (List.forall_mem_singleton.2 fun hxd => by cases hxd) n h
    · exact History.dealings_append (dealing?_of_opening hlater hed) n h

/-- The socket holds this real socket, if one is named. -/
def Behind (real : Option (Descriptor × Nat)) (h : History) (v : VirtualSocket) : Prop :=
  ∀ d n, real = some (d, n) → v.descriptor = some d ∧ openings d h = n

theorem behind_none (h : History) (v : VirtualSocket) : Behind none h v := nofun

theorem behind_of_held (hd : v.descriptor = some d) : Behind (some (d, openings d h)) h v := by
  intro e n hen
  cases hen
  exact ⟨hd, rfl⟩

theorem Behind.deed {real : Option (Descriptor × Nat)} (hb : Behind real h v)
    (hd : Deed ctx settled steady v r calls t v' r') (ho : v'.closed = false) :
    Behind real (calls ++ h) v' := by
  intro d n hdn
  obtain ⟨hv, hn⟩ := hb d n hdn
  exact ⟨hd.descriptor_eq hv ho, (hd.openings_of_held hv h).trans hn⟩

theorem Behind.spared {real : Option (Descriptor × Nat)} (hb : Behind real h v)
    (hs : ∀ d, v.descriptor = some d → Spared d calls h) : Behind real (calls ++ h) v := by
  intro d n hdn
  obtain ⟨hv, hn⟩ := hb d n hdn
  exact ⟨hv, (hs d hv).openings.trans hn⟩

end VirtualSocket

end SocketRelay
