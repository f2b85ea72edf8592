import SocketRelay.Proofs.History
import SocketRelay.Proofs.Registration

/-!
# The numbers of registrations

Registrations are numbered in the order in which they are asked for; one that the system refuses has
a number as well. A token carries the number of its registration as far as a generation has room for
it, so a token may come again, but only after all generations have been used.
-/
namespace SocketRelay

/-- A token tells its generation. -/
@[simp] theorem Token.generation_pack (d : Descriptor) (generation : UInt32) :
    (Token.pack d generation).generation = generation := by
  apply UInt32.eq_of_toBitVec_eq
  apply BitVec.eq_of_getLsbD_eq
  intro i hi
  have hword : 32 + i < 64 := by omega
  have hhigh : i < 64 := by omega
  unfold Token.generation pack
  simp [hi, hword, hhigh]

def Exchange.registers : Exchange → Bool
  | ⟨.epollAdd _ _ _, _⟩ => true
  | _ => false

/-- The token of a registration that was granted. -/
def Exchange.granted? : Exchange → Option Token
  | ⟨.epollAdd _ _ token, .ok _⟩ => some token
  | _ => none

theorem Exchange.registers_of_granted? {x : Exchange} {token : Token}
    (h : x.granted? = some token) :
    x.registers = true := by
  unfold granted? at h
  split at h
  · rfl
  · cases h

theorem Exchange.granted?_eq_none {x : Exchange} (h : x.registers = false) : x.granted? = none := by
  refine Option.eq_none_iff_forall_ne_some.2 fun token hx => ?_
  cases h.symm.trans (registers_of_granted? hx)

namespace History
variable {token : Token} {h calls : History}

def registrations (h : History) : Nat := h.countP Exchange.registers

/-- The number of the latest registration with this token. Numbers start at one. -/
def issued (token : Token) : History → Nat
  | [] => 0
  | x :: h => if x.granted? = some token then registrations (x :: h) else issued token h

theorem registrations_append (calls h : History) :
    registrations (calls ++ h) = registrations calls + registrations h := List.countP_append

theorem registrations_cons (x : Exchange) (h : History) :
    registrations (x :: h) = registrations h + if x.registers then 1 else 0 := List.countP_cons

theorem registrations_cons_of_granted? {x : Exchange} (hx : x.granted? = some token) (h : History) :
    registrations (x :: h) = registrations h + 1 := by
  rw [registrations_cons, if_pos (Exchange.registers_of_granted? hx)]

/-- No registration is asked for in these calls. -/
def Unregistered (calls : History) : Prop := ∀ x ∈ calls, x.registers = false

theorem Unregistered.registrations_eq (hc : Unregistered calls) (h : History) :
    registrations (calls ++ h) = registrations h := by
  have hnone : registrations calls = 0 :=
    List.countP_eq_zero.2 fun x hx => by simp [hc x hx]
  rw [registrations_append, hnone, Nat.zero_add]

theorem issued_le (token : Token) (h : History) : issued token h ≤ registrations h := by
  induction h with
  | nil => exact Nat.le_refl 0
  | cons x h ih =>
    unfold issued
    split
    · exact Nat.le_refl _
    · rw [registrations_cons]
      exact Nat.le_add_right_of_le ih

theorem issued_append (token : Token) (calls h : History) :
    issued token (calls ++ h) = issued token h ∨
      registrations h < issued token (calls ++ h) := by
  induction calls with
  | nil => exact .inl rfl
  | cons x calls ih =>
    rw [List.cons_append, issued]
    split
    · rename_i hx
      refine .inr ?_
      rw [registrations_cons_of_granted? hx, registrations_append]
      omega
    · exact ih

theorem issued_le_append (token : Token) (calls h : History) :
    issued token h ≤ issued token (calls ++ h) := by
  rcases issued_append token calls h with heq | hlt
  · exact Nat.le_of_eq heq.symm
  · exact Nat.le_trans (issued_le token h) (Nat.le_of_lt hlt)

theorem issued_append_of_ungranted (hc : ∀ x ∈ calls, x.granted? = none) (token : Token)
    (h : History) :
    issued token (calls ++ h) = issued token h := by
  induction calls with
  | nil => rfl
  | cons x calls ih =>
    obtain ⟨hx, hc⟩ := List.forall_mem_cons.1 hc
    rw [List.cons_append, issued, hx, if_neg nofun, ih hc]

theorem Unregistered.issued_eq (hc : Unregistered calls) (token : Token) (h : History) :
    issued token (calls ++ h) = issued token h := by
  exact issued_append_of_ungranted (fun x hx => Exchange.granted?_eq_none (hc x hx)) token h

/-- A token that is granted carries the number of its registration. -/
abbrev Numbered : History → Prop := Throughout fun x h =>
  x.granted?.all fun token => token.generation = UInt32.ofNat (registrations h + 1)

theorem Numbered.cons {x : Exchange} (hn : Numbered h)
    (hx : ∀ token, x.granted? = some token →
      token.generation = UInt32.ofNat (registrations h + 1)) :
    Numbered (x :: h) := by
  refine ⟨(Option.all_eq_true _ _).2 fun token ht => ?_, hn⟩
  exact decide_eq_true (hx token ht)

theorem Unregistered.numbered (hc : Unregistered calls) (hn : Numbered h) :
    Numbered (calls ++ h) := by
  induction calls with
  | nil => exact hn
  | cons x calls ih =>
    obtain ⟨hx, hc⟩ := List.forall_mem_cons.1 hc
    refine (ih hc).cons fun token ht => ?_
    cases ht.symm.trans (Exchange.granted?_eq_none hx)

theorem Numbered.generation (hn : Numbered h) (ht : issued token h ≠ 0) :
    token.generation = UInt32.ofNat (issued token h) := by
  induction h with
  | nil => exact (ht rfl).elim
  | cons x h ih =>
    unfold issued at ht ⊢
    split
    · rename_i hx
      rw [registrations_cons_of_granted? hx]
      exact of_decide_eq_true ((Option.all_eq_true _ _).1 hn.1 token hx)
    · rename_i hx
      rw [if_neg hx] at ht
      exact ih hn.2 ht

end History

theorem ofNat_eq_iff {n m : Nat} :
    UInt32.ofNat n = UInt32.ofNat m ↔ n % UInt32.size = m % UInt32.size := by
  rw [← UInt32.toNat_inj, UInt32.toNat_ofNat', UInt32.toNat_ofNat']

/-- Numbers with one generation are the same or far apart. -/
theorem eq_of_generation {n m : Nat} (h : UInt32.ofNat n = UInt32.ofNat m) (hle : n ≤ m)
    (hlt : m < n + UInt32.size) : n = m := by
  have hmod := ofNat_eq_iff.1 h
  unfold UInt32.size at *
  omega

end SocketRelay
