/-!
# Byte strings and little-endian words

A byte string is a list, so a frame is taken apart by recursion and put together by append. Words
are written with the least significant byte first. `readLe_le` says that a word is read back from
the front of any buffer as long as it fits its width; nothing is said about words that do not fit
beyond their remainder.
-/
namespace SocketRelay

abbrev Bytes := List UInt8

namespace Bytes

/-- The first `n` bytes and the rest, if there are that many. -/
def split? (n : Nat) (bs : Bytes) : Option (Bytes × Bytes) :=
  let front := bs.take n
  if front.length = n then some (front, bs.drop n) else none

theorem split?_eq_some_iff {n : Nat} {bs front rest : Bytes} :
    split? n bs = some (front, rest) ↔ front.length = n ∧ bs = front ++ rest := by
  unfold split?
  constructor
  · intro h
    dsimp only at h
    split at h
    · rename_i hn
      simp only [Option.some.injEq, Prod.mk.injEq] at h
      exact ⟨h.1 ▸ hn, by rw [← h.1, ← h.2, List.take_append_drop]⟩
    · simp at h
  · rintro ⟨rfl, rfl⟩
    simp

theorem split?_append {n : Nat} {front : Bytes} (h : front.length = n) (rest : Bytes) :
    split? n (front ++ rest) = some (front, rest) := split?_eq_some_iff.2 ⟨h, rfl⟩

/-- The `width` bytes of a number, least significant first. -/
def le : (width n : Nat) → Bytes
  | 0, _ => []
  | width + 1, n => UInt8.ofNat n :: le width (n / 256)

/-- The number that a list of bytes stands for, least significant first. -/
def ofLe : Bytes → Nat
  | [] => 0
  | b :: bs => b.toNat + 256 * ofLe bs

@[simp] theorem length_le (width n : Nat) : (le width n).length = width := by
  induction width generalizing n with
  | zero => rfl
  | succ width ih => simp [le, ih]

theorem ofLe_le (width n : Nat) : ofLe (le width n) = n % Nat.pow 256 width := by
  induction width generalizing n with
  | zero => exact (Nat.mod_one n).symm
  | succ width ih =>
    have hb : (UInt8.ofNat n).toNat = n % 256 := by simp
    have hp : Nat.pow 256 (width + 1) = 256 * Nat.pow 256 width := Nat.mul_comm _ _
    rw [le, ofLe, ih, hb, hp, Nat.mod_mul]

/-- Read a word of `width` bytes from the front. -/
def readLe (width : Nat) (bs : Bytes) : Option (Nat × Bytes) :=
  (split? width bs).map fun p => (ofLe p.1, p.2)

theorem readLe_le (width n : Nat) (rest : Bytes) :
    readLe width (le width n ++ rest) = some (n % Nat.pow 256 width, rest) := by
  rw [readLe, split?_append (length_le width n), Option.map_some, ofLe_le]

theorem length_of_readLe {width n : Nat} {bs rest : Bytes}
    (h : readLe width bs = some (n, rest)) : width + rest.length = bs.length := by
  simp only [readLe, Option.map_eq_some_iff, Prod.mk.injEq] at h
  obtain ⟨⟨front, after⟩, hs, -, rfl⟩ := h
  obtain ⟨hf, rfl⟩ := split?_eq_some_iff.1 hs
  simp [hf]

/-- A word of 32 bits read as a two's complement number. -/
def signed32 (n : Nat) : Int := Int.bmod n 4294967296

/-- The bytes before the first zero byte and the bytes after it; `none` without a zero byte. -/
def untilZero? (bs : Bytes) : Option (Bytes × Bytes) :=
  match bs.dropWhile (· ≠ 0) with
  | [] => none
  | _ :: rest => some (bs.takeWhile (· ≠ 0), rest)

theorem untilZero?_append {front : Bytes} (h : ∀ b ∈ front, b ≠ 0) (rest : Bytes) :
    untilZero? (front ++ 0 :: rest) = some (front, rest) := by
  induction front with
  | nil => simp [untilZero?]
  | cons b front ih =>
    have hb : b ≠ 0 := h b (by simp)
    have ih := ih fun c hc => h c (by simp [hc])
    unfold untilZero? at ih ⊢
    simp only [List.cons_append, List.dropWhile_cons, List.takeWhile_cons, ne_eq, hb,
      not_false_eq_true, decide_true, if_true]
    split at ih
    · simp at ih
    · rename_i heq
      simp only [heq]
      simp_all

theorem length_of_untilZero? {bs front rest : Bytes} (h : untilZero? bs = some (front, rest)) :
    rest.length < bs.length := by
  unfold untilZero? at h
  have hl := (List.dropWhile_sublist (fun b : UInt8 => decide (b ≠ 0)) (l := bs)).length_le
  split at h
  · simp at h
  · rename_i heq
    rw [heq] at hl
    simp only [Option.some.injEq, Prod.mk.injEq] at h
    rw [← h.2]
    exact hl

/-- The text that the bytes spell in UTF-8, if they spell one. -/
def text? (bs : Bytes) : Option String := String.fromUTF8? bs.toByteArray

def ofText (s : String) : Bytes := s.toUTF8.data.toList

theorem text?_ofText (s : String) : text? (ofText s) = some s := by
  have h : (ofText s).toByteArray = s.toUTF8 := by
    apply ByteArray.ext
    simp [ofText]
  unfold text? String.fromUTF8?
  rw [h]
  simp [String.fromUTF8, String.toUTF8, s.isValidUTF8]

end Bytes

end SocketRelay
