import SocketRelay.Proofs.Socket.Sound

/-!
# Calls on own descriptors

Apart from asking for a new socket and for reports, every call is on a descriptor. A virtual socket
makes calls on the descriptor that it holds and on those that it has just been given, and only as
long as they are open.
-/
namespace SocketRelay
open History (openDescriptors)

namespace History

/-- A descriptor that is own, or has been handed out in these exchanges. -/
def Gained (own : Descriptor → Prop) (calls : List Exchange) (d : Descriptor) : Prop :=
  own d ∨ ∃ x ∈ calls, x.opened? = some d

/-- Each of these calls was on a descriptor that was open then, and own or handed out shortly
before. -/
def Confined (own : Descriptor → Prop) (h : History) : List Exchange → Prop
  | [] => True
  | x :: calls => (∀ d, x.call.descriptor? = some d →
      d ∈ openDescriptors (calls ++ h) ∧ Gained own calls d) ∧ Confined own h calls

variable {own own' : Descriptor → Prop} {h : History} {calls calls' : List Exchange}
  {d : Descriptor}

theorem Gained.mono (hg : Gained own' calls' d) (hown : ∀ d, own' d → Gained own calls d) :
    Gained own (calls' ++ calls) d := by
  rcases hg with hd | ⟨x, hx, hd⟩
  · rcases hown d hd with hd | ⟨x, hx, hd⟩
    · exact .inl hd
    · exact .inr ⟨x, List.mem_append_right _ hx, hd⟩
  · exact .inr ⟨x, List.mem_append_left _ hx, hd⟩

/-- Calls after other calls, if nothing counts as own in between that was not gained before. -/
theorem Confined.append (hc : Confined own h calls) (hc' : Confined own' (calls ++ h) calls')
    (hown : ∀ d, own' d → Gained own calls d) : Confined own h (calls' ++ calls) := by
  induction calls' with
  | nil => exact hc
  | cons x calls' ih =>
    obtain ⟨hx, hrest⟩ := hc'
    refine ⟨fun d hd => ?_, ih hrest⟩
    obtain ⟨ho, hg⟩ := hx d hd
    refine ⟨?_, hg.mono hown⟩
    change d ∈ openDescriptors (calls' ++ calls ++ h)
    rwa [List.append_assoc]

theorem confined_of_inert (hin : ∀ x ∈ calls, x.Inert)
    (hon : ∀ x ∈ calls, x.call.descriptor? = some d) (hd : d ∈ openDescriptors h) (hown : own d) :
    Confined own h calls := by
  induction calls with
  | nil => exact trivial
  | cons x calls ih =>
    obtain ⟨-, hin⟩ := List.forall_mem_cons.1 hin
    obtain ⟨hx, hon⟩ := List.forall_mem_cons.1 hon
    refine ⟨fun e he => ?_, ih hin hon⟩
    cases hx.symm.trans he
    rw [openDescriptors_append hin]
    exact ⟨hd, .inl hown⟩

theorem Confined.cons {x : Exchange} (hc : Confined own h calls) (hx : x.call.descriptor? = some d)
    (hd : d ∈ openDescriptors (calls ++ h)) (hown : own d) : Confined own h (x :: calls) := by
  refine ⟨fun e he => ?_, hc⟩
  cases hx.symm.trans he
  exact ⟨hd, .inl hown⟩

theorem confined_single {x : Exchange} (hx : x.call.descriptor? = some d)
    (hd : d ∈ openDescriptors h) (hown : own d) : Confined own h [x] :=
  Confined.cons trivial hx hd hown

theorem confined_of_opening {kind : SocketKind}
    (hc : Confined (fun e => e = d) (⟨.openSocket kind, .ok d⟩ :: h) calls) :
    Confined own h (calls ++ [⟨.openSocket kind, .ok d⟩]) := by
  have hopened : Confined own h [⟨.openSocket kind, .ok d⟩] := ⟨nofun, trivial⟩
  refine hopened.append hc fun e he => ?_
  exact .inr ⟨_, List.mem_singleton.2 rfl, congrArg some he.symm⟩

end History

namespace VirtualSocket
open History (Confined Gained confined_of_inert confined_single confined_of_opening)
variable {ctx : SocketContext} {settled steady : Prop} {v v' : VirtualSocket} {r r' : Reactor}
variable {calls : List Exchange} {t : Traffic} {d : Descriptor} {x : Exchange}

theorem Idle.on (h : Idle ctx v d x) : x.call.descriptor? = some d := by
  cases h <;> rfl

theorem Drained.on {data rest : Bytes} (h : Drained d data calls rest) :
    ∀ x ∈ calls, x.call.descriptor? = some d := by
  induction h with
  | untouched => exact nofun
  | sent n _ _ ih | unsent e _ _ ih => exact List.forall_mem_cons.2 ⟨rfl, ih⟩

theorem Ending.on (h : Ending ctx settled v calls t) (hv : v.descriptor = some d) :
    ∀ x ∈ calls, x.call.descriptor? = some d := by
  cases h with
  | unflushed e calls rest he hs hr =>
    cases hv.symm.trans he
    exact hr.on
  | refused e answer he | finished e he =>
    cases hv.symm.trans he
    exact List.forall_mem_singleton.2 rfl
  | _ => exact nofun

/-- Without a descriptor there is nothing to find out first. -/
theorem Ending.bare (h : Ending ctx settled v calls t) (hv : v.descriptor = none) : calls = [] := by
  cases h with
  | unflushed e calls rest he | refused e answer he | finished e he => cases hv.symm.trans he
  | _ => rfl

theorem confined_of_setup {h₀ : History} {setup : List Exchange}
    (hs : ∀ x ∈ setup, Preparing ctx v d x) (hx : x.call.descriptor? = some d)
    (hd : d ∈ History.openDescriptors h₀) : Confined (fun e => e = d) h₀ (x :: setup) := by
  have hin : ∀ x ∈ setup, x.Inert := fun x hx => (hs x hx).inert
  refine .cons (confined_of_inert hin (fun x hx => (hs x hx).on) hd rfl) hx ?_ rfl
  rwa [History.openDescriptors_append hin]

theorem Misfire.confined (h : Misfire ctx v r calls r') (h₀ : History) (own : Descriptor → Prop) :
    Confined own h₀ calls := by
  cases h with
  | unopened e => exact ⟨nofun, trivial⟩
  | undone d setup hs => exact confined_of_opening (confined_of_setup hs rfl List.mem_cons_self)
  | unwatched d setup bits token e hs =>
    refine confined_of_opening ?_
    have hadd : Confined (fun e => e = d) (⟨.openSocket v.kind, .ok d⟩ :: h₀)
        (⟨.epollAdd d bits token, .error e⟩ :: setup) :=
      confined_of_setup hs rfl List.mem_cons_self
    refine hadd.cons rfl ?_ rfl
    have hin : ∀ x ∈ setup, x.Inert := fun x hx => (hs x hx).inert
    have hopen := History.openDescriptors_append hin (⟨.openSocket v.kind, .ok d⟩ :: h₀)
    change d ∈ openDescriptors (setup ++ _)
    rw [hopen]
    exact List.mem_cons_self

/-- A deed is confined to its socket's descriptor and to those that it is given. -/
theorem Deed.confined (h : Deed ctx settled steady v r calls t v' r') (h₀ : History)
    (ho : ∀ d, v.descriptor = some d → d ∈ openDescriptors h₀) :
    Confined (fun d => v.descriptor = some d) h₀ calls := by
  have hlive : ∀ {d}, v.live? = some d → v.descriptor = some d ∧ d ∈ openDescriptors h₀ := by
    intro d hd
    have hd := (live?_eq_some.1 hd).2
    exact ⟨hd, ho d hd⟩
  cases h with
  | bound | queued => exact trivial
  | idle d x hd hx => exact confined_single hx.on (hlive hd).2 (hlive hd).1
  | misfired hd hc hm => exact hm.confined h₀ _
  | opened d setup hd hc hb hs =>
    exact confined_of_opening (confined_of_setup hs rfl List.mem_cons_self)
  | wrote d data n hd => exact confined_single rfl (hlive hd).2 (hlive hd).1
  | queuedFirst d rest hd | rearmed d hd => exact confined_single rfl (hlive hd).2 (hlive hd).1
  | settled d answer hd | received d data hd => exact confined_single rfl (hlive hd).2 (hlive hd).1
  | flushed d hd hn hr => exact confined_of_inert hr.inert hr.on (hlive hd).2 (hlive hd).1
  | ended hc he hcl =>
    cases hd : v.descriptor with
    | none =>
      rw [hd] at hcl
      cases hcl
      rw [he.bare hd]
      exact trivial
    | some d =>
      have hlead : Confined (fun e => some d = some e) h₀ _ :=
        confined_of_inert he.inert (he.on hd) (ho d hd) rfl
      have hopen := History.openDescriptors_append he.inert h₀
      rw [hd] at hcl
      cases hcl with
      | unwatched =>
        refine hlead.cons rfl ?_ rfl
        rw [hopen]
        exact ho d hd
      | watched d answer =>
        have hremoved : d ∈ openDescriptors (_ ++ h₀) := hopen ▸ ho d hd
        refine (hlead.cons rfl hremoved rfl).cons rfl ?_ rfl
        exact hremoved

theorem Deed.gained (h : Deed ctx settled steady v r calls t v' r') (hd : v'.descriptor = some d) :
    Gained (fun d => v.descriptor = some d) calls d := by
  cases h with
  | opened e setup =>
    cases hd
    exact .inr ⟨_, List.mem_append_right _ (List.mem_singleton.2 rfl), rfl⟩
  | ended => cases hd
  | _ => exact .inl hd

end VirtualSocket

end SocketRelay
