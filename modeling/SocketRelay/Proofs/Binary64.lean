import Mathlib.Algebra.Order.Field.Power
import Mathlib.Algebra.Order.Field.Rat
import Mathlib.Algebra.Order.Ring.Nat
import Mathlib.Data.Rat.Cast.Order
import Mathlib.Tactic.Linarith
import Mathlib.Tactic.Positivity
import SocketRelay.Binary64

/-!
# The number that a word stands for

A finite word stands for a rational number: its significand, scaled by a power of two, with its
sign. `toInt?` finds the integer among these numbers by natural-number division alone;
`toInt?_eq_some_iff` says that it finds all of them.
-/
namespace SocketRelay.Binary64

/-- The number that a finite word stands for. -/
def value (x : Binary64) : ℚ :=
  (if x.isNegative then -1 else 1) * ((x.significand : ℚ) * (2 : ℚ) ^ x.scale)

theorem magnitude?_eq_some_iff {x : Binary64} {n : ℕ} :
    x.magnitude? = some n ↔ (x.significand : ℚ) * (2 : ℚ) ^ x.scale = n := by
  unfold magnitude?
  by_cases hscale : 0 ≤ x.scale
  · obtain ⟨k, hk⟩ := Int.eq_ofNat_of_zero_le hscale
    rw [if_pos hscale, hk, Int.toNat_natCast, zpow_natCast, Option.some.injEq,
      ← Nat.cast_inj (R := ℚ)]
    simp
  · obtain ⟨k, hk⟩ := Int.eq_ofNat_of_zero_le (show 0 ≤ -x.scale by omega)
    have hneg : x.scale = -(k : ℤ) := by omega
    have hpos : 0 < 2 ^ k := by positivity
    have hquotient : (x.significand : ℚ) * (2 : ℚ) ^ x.scale = n ↔ x.significand = n * 2 ^ k := by
      rw [hneg, zpow_neg, zpow_natCast, ← div_eq_mul_inv, div_eq_iff (by positivity)]
      exact_mod_cast Iff.rfl
    rw [if_neg hscale, hk, Int.toNat_natCast, hquotient]
    change (if x.significand % 2 ^ k = 0 then some (x.significand / 2 ^ k) else none) = some n ↔ _
    by_cases hmod : x.significand % 2 ^ k = 0
    · rw [if_pos hmod, Option.some.injEq]
      exact Nat.div_eq_iff_eq_mul_left hpos (Nat.dvd_of_mod_eq_zero hmod)
    · rw [if_neg hmod]
      constructor
      · intro h
        cases h
      · intro h
        rw [h] at hmod
        exact absurd (Nat.mul_mod_left n (2 ^ k)) hmod

theorem toInt?_of_isFinite {x : Binary64} (h : x.isFinite) {n : ℤ} :
    x.toInt? = some n ↔
      ∃ m : ℕ, x.magnitude? = some m ∧ (if x.isNegative then -(m : ℤ) else (m : ℤ)) = n := by
  rw [toInt?, if_pos h]
  cases x.magnitude? with
  | none => simp
  | some m => simp

/-- A word is read as the integer it stands for, and as nothing if it stands for none. -/
theorem toInt?_eq_some_iff {x : Binary64} {n : ℤ} :
    x.toInt? = some n ↔ x.isFinite ∧ x.value = n := by
  by_cases hfinite : x.isFinite
  · have hnonneg : 0 ≤ (x.significand : ℚ) * (2 : ℚ) ^ x.scale := by positivity
    simp only [toInt?_of_isFinite hfinite, magnitude?_eq_some_iff, hfinite, true_and, value]
    generalize (x.significand : ℚ) * (2 : ℚ) ^ x.scale = magnitude at hnonneg ⊢
    constructor
    · intro h
      obtain ⟨m, rfl, rfl⟩ := h
      cases x.isNegative <;> simp
    · intro h
      cases hsign : x.isNegative with
      | true =>
        have hmagnitude : magnitude = ((-n : ℤ) : ℚ) := by
          simp only [hsign, if_true] at h
          rw [Int.cast_neg, ← h, neg_one_mul, neg_neg]
        rw [hmagnitude] at hnonneg
        obtain ⟨m, hm⟩ := Int.eq_ofNat_of_zero_le (Int.cast_nonneg_iff.1 hnonneg)
        refine ⟨m, by rw [hmagnitude, hm, Int.cast_natCast], ?_⟩
        simp only [if_true]
        omega
      | false =>
        have hmagnitude : magnitude = (n : ℚ) := by
          simp only [hsign, Bool.false_eq_true, if_false, one_mul] at h
          exact h
        rw [hmagnitude] at hnonneg
        obtain ⟨m, hm⟩ := Int.eq_ofNat_of_zero_le (Int.cast_nonneg_iff.1 hnonneg)
        refine ⟨m, by rw [hmagnitude, hm, Int.cast_natCast], ?_⟩
        simp only [Bool.false_eq_true, if_false]
        omega
  · simp [toInt?, hfinite]

end SocketRelay.Binary64
