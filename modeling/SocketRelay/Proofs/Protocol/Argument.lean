import SocketRelay.Proofs.Binary64
import SocketRelay.Protocol.Argument

/-!
# What an argument stands for

A position in a list of arguments takes an integer, a port or a byte string. `Spells` says which
values stand for which argument, in terms of the numbers that the values denote; `Misfit` says what
is reported of a value that stands for none. Reading an argument decides between the two.
-/
namespace SocketRelay.Protocol
open Bson (Value)

/-- What a position takes. -/
inductive Parameter where
  | integer | port | bytes
  deriving DecidableEq, Repr

inductive Argument where
  | integer (n : Int64)
  | port (p : Port)
  | bytes (data : Bytes)
  deriving DecidableEq, Repr

def Argument.parameter : Argument → Parameter
  | integer _ => .integer
  | port _ => .port
  | bytes _ => .bytes

section Results
variable {α β : Type} {x : Except WireError α}

theorem map_eq_ok_iff {f : α → β} {b : β} : x.map f = .ok b ↔ ∃ a, x = .ok a ∧ f a = b := by
  cases x <;> simp [Except.map]

theorem map_eq_error_iff {f : α → β} {e : WireError} : x.map f = .error e ↔ x = .error e := by
  cases x <;> simp [Except.map]

theorem bind_eq_ok_iff {f : α → Except WireError β} {b : β} :
    (x >>= f) = .ok b ↔ ∃ a, x = .ok a ∧ f a = .ok b := by
  cases x <;> simp [Bind.bind, Except.bind]

theorem bind_eq_error_iff {f : α → Except WireError β} {e : WireError} :
    (x >>= f) = .error e ↔ x = .error e ∨ ∃ a, x = .ok a ∧ f a = .error e := by
  cases x <;> simp [Bind.bind, Except.bind]

end Results

/-- The integer that a value denotes. The floating-point number just beyond the greatest integer
denotes the greatest. -/
inductive Denotes : Value → Int64 → Prop
  | int32 {k : Int32} {n : Int64} : n.toInt = k.toInt → Denotes (.int32 k) n
  | int64 {n : Int64} : Denotes (.int64 n) n
  | double {x : Binary64} {m : ℤ} {n : Int64} : x.isFinite → x.value = m →
      -(2 ^ 63) ≤ m → m ≤ 2 ^ 63 → n.toInt = min m (2 ^ 63 - 1) → Denotes (.double x) n

theorem rounded_minValue : Binary64.rounded Int64.minValue.toInt = -(2 ^ 63) := by
  decide +kernel

/-- The greatest integer is rounded up. -/
theorem rounded_maxValue : Binary64.rounded Int64.maxValue.toInt = 2 ^ 63 := by
  decide +kernel

theorem integerOfDouble?_eq_some_iff {x : Binary64} {n : Int64} :
    integerOfDouble? x = some n ↔ ∃ m : ℤ, x.toInt? = some m ∧
      -(2 ^ 63) ≤ m ∧ m ≤ 2 ^ 63 ∧ n.toInt = min m (2 ^ 63 - 1) := by
  unfold integerOfDouble?
  cases x.toInt? with
  | none => simp
  | some m =>
    have hgreatest : Int64.maxValue.toInt = 2 ^ 63 - 1 := rfl
    rw [rounded_minValue, rounded_maxValue, hgreatest]
    by_cases hrange : -(2 ^ 63) ≤ m ∧ m ≤ 2 ^ 63
    · have hround : (Int64.ofInt (min m (2 ^ 63 - 1))).toInt = min m (2 ^ 63 - 1) :=
        Int64.toInt_ofInt_of_le (by omega) (by omega)
      simp only [if_pos hrange, Option.some.injEq, exists_eq_left']
      constructor
      · intro h
        rw [← h, hround]
        omega
      · intro h
        apply Int64.toInt.inj
        rw [hround]
        omega
    · simp only [if_neg hrange, Option.some.injEq, exists_eq_left']
      constructor
      · intro h
        cases h
      · intro h
        omega

theorem integerOf?_eq_some_iff {v : Value} {n : Int64} : integerOf? v = some n ↔ Denotes v n := by
  constructor
  · intro h
    cases v with
    | int32 k =>
      apply Denotes.int32
      rw [← Option.some.inj h, Int32.toInt_toInt64]
    | int64 k =>
      rw [← Option.some.inj h]
      exact Denotes.int64
    | double x =>
      obtain ⟨m, hm, hlow, hhigh, hn⟩ := integerOfDouble?_eq_some_iff.1 h
      obtain ⟨hfinite, hvalue⟩ := Binary64.toInt?_eq_some_iff.1 hm
      exact Denotes.double hfinite hvalue hlow hhigh hn
    | _ => cases h
  · intro h
    cases h with
    | int32 hk =>
      rw [integerOf?, Option.some.injEq]
      apply Int64.toInt.inj
      rw [Int32.toInt_toInt64, hk]
    | int64 => rfl
    | double hfinite hvalue hlow hhigh hn =>
      apply integerOfDouble?_eq_some_iff.2
      exact ⟨_, Binary64.toInt?_eq_some_iff.2 ⟨hfinite, hvalue⟩, hlow, hhigh, hn⟩

theorem integerOf?_eq_none_iff {v : Value} : integerOf? v = none ↔ ∀ n, ¬ Denotes v n := by
  rw [Option.eq_none_iff_forall_ne_some]
  exact forall_congr' fun n => not_congr integerOf?_eq_some_iff

theorem Denotes.unique {v : Value} {m n : Int64} (hm : Denotes v m) (hn : Denotes v n) : m = n := by
  have h := integerOf?_eq_some_iff.2 hm
  rw [integerOf?_eq_some_iff.2 hn] at h
  exact (Option.some.inj h).symm

/-- The argument that a value stands for at a position of the right kind. -/
inductive Spells : Value → Argument → Prop
  | integer {v : Value} {n : Int64} : Denotes v n → Spells v (.integer n)
  | port {v : Value} {n : Int64} {p : Port} : Denotes v n → n.toInt = p.toNat → Spells v (.port p)
  | bytes {subtype : UInt8} {data : Bytes} : Spells (.binary subtype data) (.bytes data)

/-- What is reported of a value that stands for no argument at a position. -/
inductive Misfit (index : Nat) : Parameter → Value → ArgumentFault → Prop
  | integer {v : Value} : (∀ n, ¬ Denotes v n) → Misfit index .integer v (.notInteger index v.type)
  | portInteger {v : Value} : (∀ n, ¬ Denotes v n) → Misfit index .port v (.notInteger index v.type)
  | portRange {v : Value} {n : Int64} : Denotes v n → ¬ (0 ≤ n.toInt ∧ n.toInt ≤ 65535) →
      Misfit index .port v (.notPort index n)
  | bytes {v : Value} : (∀ subtype data, v ≠ .binary subtype data) →
      Misfit index .bytes v (.notBinary index v.type)

def Fits (p : Parameter) (v : Value) : Prop := ∃ a : Argument, a.parameter = p ∧ Spells v a

namespace Arguments

theorem integer_eq_ok_iff {args : Arguments} {index : Nat} {v : Value} {n : Int64} :
    args.integer index v = .ok n ↔ Denotes v n := by
  rw [← integerOf?_eq_some_iff, integer]
  cases integerOf? v <;> simp

theorem integer_eq_error_iff {args : Arguments} {index : Nat} {v : Value} {e : WireError} :
    args.integer index v = .error e ↔
      (∀ n, ¬ Denotes v n) ∧ e = args.fault (.notInteger index v.type) := by
  rw [← integerOf?_eq_none_iff, integer]
  cases integerOf? v <;> simp [eq_comm]

theorem bytes_eq_ok_iff {args : Arguments} {index : Nat} {v : Value} {data : Bytes} :
    args.bytes index v = .ok data ↔ ∃ subtype, v = .binary subtype data := by
  cases v <;> simp [bytes, bytesOf?]

theorem bytes_eq_error_iff {args : Arguments} {index : Nat} {v : Value} {e : WireError} :
    args.bytes index v = .error e ↔
      (∀ subtype data, v ≠ .binary subtype data) ∧ e = args.fault (.notBinary index v.type) := by
  cases v <;> simp [bytes, bytesOf?, eq_comm]

theorem port_eq_ok_iff {args : Arguments} {index : Nat} {v : Value} {p : Port} :
    args.port index v = .ok p ↔ ∃ n, Denotes v n ∧ n.toInt = p.toNat := by
  unfold port
  constructor
  · intro h
    split at h
    · rename_i n hn
      split at h
      · rename_i hrange
        refine ⟨n, integer_eq_ok_iff.1 hn, ?_⟩
        have hsmall : n.toInt.toNat < UInt16.size := by
          change n.toInt.toNat < 65536
          omega
        rw [← Except.ok.inj h, UInt16.toNat_ofNat_of_lt' hsmall]
        omega
      · cases h
    · cases h
  · intro h
    obtain ⟨n, hn, hp⟩ := h
    have hbound : p.toNat < 65536 := p.toNat_lt
    have hrange : 0 ≤ n.toInt ∧ n.toInt < 65536 := by omega
    rw [integer_eq_ok_iff.2 hn]
    rw [hp] at hrange
    simp only [hp, if_pos hrange, Int.toNat_natCast, UInt16.ofNat_toNat]

theorem port_eq_error_iff {args : Arguments} {index : Nat} {v : Value} {e : WireError} :
    args.port index v = .error e ↔
      ((∀ n, ¬ Denotes v n) ∧ e = args.fault (.notInteger index v.type)) ∨
      ∃ n, Denotes v n ∧ ¬ (0 ≤ n.toInt ∧ n.toInt ≤ 65535) ∧ e = args.fault (.notPort index n) := by
  unfold port
  cases hread : args.integer index v with
  | error e' =>
    obtain ⟨hnone, rfl⟩ := integer_eq_error_iff.1 hread
    simp [hnone, eq_comm]
  | ok n =>
    have hn := integer_eq_ok_iff.1 hread
    have hsome : ¬ ∀ n, ¬ Denotes v n := fun hnone => hnone n hn
    simp only [hsome, false_and, false_or]
    by_cases hrange : 0 ≤ n.toInt ∧ n.toInt < 65536
    · rw [if_pos hrange]
      constructor
      · intro h
        cases h
      · intro h
        obtain ⟨m, hm, hout, -⟩ := h
        have hsame := hm.unique hn
        subst hsame
        omega
    · rw [if_neg hrange]
      constructor
      · intro h
        exact ⟨n, hn, by omega, (Except.error.inj h).symm⟩
      · intro h
        obtain ⟨m, hm, -, he⟩ := h
        rw [he, hm.unique hn]

/-- The argument at an index that the list reaches, read as the position asks. -/
def argument (args : Arguments) (index : Nat) : Parameter → Value → Except WireError Argument
  | .integer, v => (args.integer index v).map .integer
  | .port, v => (args.port index v).map .port
  | .bytes, v => (args.bytes index v).map .bytes

theorem argument_eq_ok_iff {args : Arguments} {index : Nat} {p : Parameter} {v : Value}
    {a : Argument} : args.argument index p v = .ok a ↔ a.parameter = p ∧ Spells v a := by
  constructor
  · intro h
    cases p with
    | integer =>
      obtain ⟨n, hn, rfl⟩ := map_eq_ok_iff.1 h
      exact ⟨rfl, .integer (integer_eq_ok_iff.1 hn)⟩
    | port =>
      obtain ⟨port, hport, rfl⟩ := map_eq_ok_iff.1 h
      obtain ⟨n, hn, hp⟩ := port_eq_ok_iff.1 hport
      exact ⟨rfl, .port hn hp⟩
    | bytes =>
      obtain ⟨data, hdata, rfl⟩ := map_eq_ok_iff.1 h
      obtain ⟨subtype, rfl⟩ := bytes_eq_ok_iff.1 hdata
      exact ⟨rfl, .bytes⟩
  · intro h
    obtain ⟨rfl, hspells⟩ := h
    cases hspells with
    | integer hn => exact map_eq_ok_iff.2 ⟨_, integer_eq_ok_iff.2 hn, rfl⟩
    | port hn hp => exact map_eq_ok_iff.2 ⟨_, port_eq_ok_iff.2 ⟨_, hn, hp⟩, rfl⟩
    | bytes => rfl

theorem argument_eq_error_iff {args : Arguments} {index : Nat} {p : Parameter} {v : Value}
    {e : WireError} : args.argument index p v = .error e ↔
      ∃ f, Misfit index p v f ∧ e = args.fault f := by
  constructor
  · intro h
    cases p with
    | integer =>
      obtain ⟨hnone, rfl⟩ := integer_eq_error_iff.1 (map_eq_error_iff.1 h)
      exact ⟨_, .integer hnone, rfl⟩
    | port =>
      rcases port_eq_error_iff.1 (map_eq_error_iff.1 h) with ⟨hnone, rfl⟩ | ⟨n, hn, hout, rfl⟩
      · exact ⟨_, .portInteger hnone, rfl⟩
      · exact ⟨_, .portRange hn hout, rfl⟩
    | bytes =>
      obtain ⟨hnone, rfl⟩ := bytes_eq_error_iff.1 (map_eq_error_iff.1 h)
      exact ⟨_, .bytes hnone, rfl⟩
  · intro h
    obtain ⟨f, hf, rfl⟩ := h
    cases hf with
    | integer hnone => exact map_eq_error_iff.2 (integer_eq_error_iff.2 ⟨hnone, rfl⟩)
    | portInteger hnone => exact map_eq_error_iff.2 (port_eq_error_iff.2 (.inl ⟨hnone, rfl⟩))
    | portRange hn hout => exact map_eq_error_iff.2 (port_eq_error_iff.2 (.inr ⟨_, hn, hout, rfl⟩))
    | bytes hnone => exact map_eq_error_iff.2 (bytes_eq_error_iff.2 ⟨hnone, rfl⟩)

end Arguments

end SocketRelay.Protocol
