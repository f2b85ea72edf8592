import SocketRelay.Proofs.Numbering
import SocketRelay.Proofs.Socket.Deed

/-!
# How a socket comes by its token

Only a socket without a descriptor asks for a registration, and it asks once: if it is granted, the
socket gets the token and the table a row for it, and if not, the number is used up all the same.
The token stays until the socket closes.
-/
namespace SocketRelay
open History (Unregistered registrations issued Numbered)

/-- The rows of the second reactor were there before, perhaps with other interests. -/
def Reactor.Inherits (r r' : Reactor) : Prop :=
  ∀ d row, r'.table.get? d = some row → ∃ interest, r.table.get? d = some { row with interest }

namespace Reactor
variable {r : Reactor} {d : Descriptor}

theorem Inherits.refl (r : Reactor) : Inherits r r := fun _ row h => ⟨row.interest, h⟩

theorem inherits_renewed {registration : Registration} {interest : Interest}
    (h : r.table.get? d = some registration) :
    Inherits r (r.withTable (r.table.insert d { registration with interest })) := by
  intro e row he
  rw [withTable_table, Table.get?_insert] at he
  split at he
  · rename_i hed
    cases he
    exact ⟨registration.interest, hed ▸ h⟩
  · exact ⟨row.interest, he⟩

theorem inherits_erase : Inherits r (r.withTable (r.table.erase d)) := by
  intro e row he
  rw [withTable_table, Table.get?_erase] at he
  split at he
  · cases he
  · exact ⟨row.interest, he⟩

end Reactor

namespace VirtualSocket
variable {ctx : SocketContext} {settled steady : Prop} {v v' : VirtualSocket} {r r' : Reactor}
variable {calls : List Exchange} {t : Traffic} {d : Descriptor} {x : Exchange} {h : History}

theorem Preparing.registers_eq (hx : Preparing ctx v d x) : x.registers = false := by
  cases hx <;> rfl

theorem Idle.registers_eq (hx : Idle ctx v d x) : x.registers = false := by
  cases hx <;> rfl

theorem Drained.unregistered {data rest : Bytes} (hd : Drained d data calls rest) :
    Unregistered calls := by
  induction hd with
  | untouched => exact nofun
  | sent n _ _ ih | unsent e _ _ ih => exact List.forall_mem_cons.2 ⟨rfl, ih⟩

theorem Ending.unregistered (he : Ending ctx settled v calls t) : Unregistered calls := by
  cases he with
  | unflushed d calls rest hd hs hr => exact hr.unregistered
  | refused d | finished d => exact List.forall_mem_singleton.2 rfl
  | wished | failed | gone => exact nofun

/-- Giving up the descriptor removes a row at most. -/
theorem Closing.released {descriptor : Option Descriptor} (hc : Closing r descriptor calls r') :
    Unregistered calls ∧ r'.nextGeneration = r.nextGeneration ∧ r.Inherits r' := by
  cases hc with
  | nothing => exact ⟨nofun, rfl, .refl r⟩
  | unwatched d hn => exact ⟨List.forall_mem_singleton.2 rfl, rfl, Reactor.inherits_erase⟩
  | watched d answer =>
    exact ⟨List.forall_mem_cons.2 ⟨rfl, List.forall_mem_singleton.2 rfl⟩, rfl,
      Reactor.inherits_erase⟩

/-- The socket keeps what it holds, or is closed and has given it up. -/
def Retains (v v' : VirtualSocket) : Prop :=
  v' = v.shut ∨ v'.descriptor = v.descriptor ∧ v'.token = v.token ∧ v'.closed = v.closed

theorem Retains.refl (v : VirtualSocket) : Retains v v := .inr ⟨rfl, rfl, rfl⟩

/-- What a deed does about registrations: nothing, one that is refused, or one that is granted. -/
inductive Enrolment (mailbox : MailboxId) (v : VirtualSocket) (r : Reactor) (calls : List Exchange)
    (v' : VirtualSocket) (r' : Reactor) : Prop
  | none : Unregistered calls → r'.nextGeneration = r.nextGeneration → Retains v v' →
      r.Inherits r' → Enrolment mailbox v r calls v' r'
  | refused (d bits token e lead) : v.descriptor = .none → v.closed = false → Unregistered lead →
      calls = ⟨.close d, ()⟩ :: ⟨.epollAdd d bits token, .error e⟩ :: lead → v' = v →
      r' = r.advance → Enrolment mailbox v r calls v' r'
  | granted (d bits interest lead) : v.descriptor = .none → v.closed = false → Unregistered lead →
      calls = ⟨.epollAdd d bits (Token.pack d r.nextGeneration), .ok ()⟩ :: lead →
      v'.token = some (Token.pack d r.nextGeneration) →
      r' = r.advance.withTable
        (r.table.insert d ⟨Token.pack d r.nextGeneration, v.id, interest, mailbox⟩) →
      Enrolment mailbox v r calls v' r'

theorem Deed.enrolment (hd : Deed ctx settled steady v r calls t v' r') :
    Enrolment ctx.mailbox v r calls v' r' := by
  have hsetup : ∀ {d setup}, (∀ x ∈ setup, Preparing ctx v d x) →
      Unregistered (setup ++ [⟨.openSocket v.kind, .ok d⟩]) := by
    intro d setup hset x hx
    rcases List.mem_append.1 hx with hx | hx
    · exact (hset x hx).registers_eq
    · rw [List.mem_singleton.1 hx]
      rfl
  cases hd with
  | bound | queued => exact .none nofun rfl (.inr ⟨rfl, rfl, rfl⟩) (.refl r)
  | settled =>
    exact .none (List.forall_mem_singleton.2 rfl) rfl (.inr ⟨rfl, rfl, rfl⟩) (.refl r)
  | wrote | received =>
    exact .none (List.forall_mem_singleton.2 rfl) rfl (.refl v) (.refl r)
  | idle d x hd hx =>
    exact .none (List.forall_mem_singleton.2 hx.registers_eq) rfl (.refl v) (.refl r)
  | flushed d hd hn hr => exact .none hr.unregistered rfl (.inr ⟨rfl, rfl, rfl⟩) (.refl r)
  | queuedFirst d rest hd hk ho hl hr =>
    exact .none (List.forall_mem_singleton.2 rfl) rfl (.inr ⟨rfl, rfl, rfl⟩)
      (Reactor.inherits_renewed hr)
  | rearmed d hd hr =>
    exact .none (List.forall_mem_singleton.2 rfl) rfl (.refl v) (Reactor.inherits_renewed hr)
  | ended hc he hcl =>
    obtain ⟨hcalls, hnext, hrows⟩ := hcl.released
    refine .none (fun x hx => ?_) hnext (.inl rfl) hrows
    exact (List.mem_append.1 hx).elim (hcalls x) (he.unregistered x)
  | misfired hd hc hm =>
    cases hm with
    | unopened e => exact .none (List.forall_mem_singleton.2 rfl) rfl (.refl v) (.refl r)
    | undone d setup hset =>
      exact .none (List.forall_mem_cons.2 ⟨rfl, hsetup hset⟩) rfl (.refl v) (.refl r)
    | unwatched d setup bits token e hset =>
      exact .refused d bits token e _ hd hc (hsetup hset) rfl rfl rfl
  | opened d setup hd hc hb hset => exact .granted d _ _ _ hd hc (hsetup hset) rfl rfl rfl

theorem Enrolment.next {mailbox : MailboxId} (he : Enrolment mailbox v r calls v' r')
    (hn : r.nextGeneration = UInt32.ofNat (registrations h + 1)) :
    r'.nextGeneration = UInt32.ofNat (registrations (calls ++ h) + 1) := by
  have hsucc : r.advance.nextGeneration = UInt32.ofNat (registrations h + 1 + 1) := by
    rw [UInt32.ofNat_add, ← hn]
    rfl
  cases he with
  | none hc hnext => rw [hnext, hc.registrations_eq, hn]
  | refused d bits token e lead hd hv hl hc hv' hr =>
    rw [hr, hc, hsucc, List.cons_append, List.cons_append, History.registrations_cons,
      History.registrations_cons, hl.registrations_eq]
    rfl
  | granted d bits interest lead hd hv hl hc ht hr =>
    rw [hr, hc, List.cons_append, History.registrations_cons, hl.registrations_eq]
    exact hsucc

theorem Enrolment.numbered {mailbox : MailboxId} (he : Enrolment mailbox v r calls v' r')
    (hn : r.nextGeneration = UInt32.ofNat (registrations h + 1)) (hh : Numbered h) :
    Numbered (calls ++ h) := by
  cases he with
  | none hc => exact hc.numbered hh
  | refused d bits token e lead hd hv hl hc =>
    rw [hc]
    have hrefused : Numbered (⟨.epollAdd d bits token, .error e⟩ :: (lead ++ h)) :=
      (hl.numbered hh).cons fun _ ht => nomatch ht
    exact hrefused.cons fun _ ht => nomatch ht
  | granted d bits interest lead hd hv hl hc =>
    rw [hc]
    refine (hl.numbered hh).cons fun token ht => ?_
    cases ht
    rw [Token.generation_pack, hn, hl.registrations_eq]

end VirtualSocket

end SocketRelay
