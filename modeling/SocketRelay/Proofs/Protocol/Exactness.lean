import SocketRelay.Proofs.Protocol.Framing
import SocketRelay.Proofs.Protocol.Grammar

/-!
# Numbers come through

Every integer of a request is the very number that was sent, in whichever of the three encodings it
came; the number of a floating-point word is the rational that its bits stand for. A word whose
number is no integer, or none that the position takes, is refused.

There is one exception, at the upper end of the range: the bound of the range is itself rounded when
words are compared with it, so the word for `2 ^ 63` passes, and is taken for `2 ^ 63 - 1`.
-/
namespace SocketRelay.Protocol
open Bson (Value Document)

/-- The number that an argument is. -/
def number? : Value → Option ℚ
  | .int32 n => some n.toInt
  | .int64 n => some n.toInt
  | .double x => if x.isFinite then some x.value else none
  | _ => none

/-- The value is the argument, number for number and byte for byte. -/
inductive Exact : Value → Argument → Prop
  | integer {v : Value} {n : Int64} : number? v = some (n.toInt : ℚ) → Exact v (.integer n)
  | port {v : Value} {p : Port} : number? v = some (p.toNat : ℚ) → Exact v (.port p)
  | bytes {subtype : UInt8} {data : Bytes} : Exact (.binary subtype data) (.bytes data)

/-- The value is the number just beyond the greatest integer, and the argument is the greatest. -/
structure Beyond (v : Value) (a : Argument) : Prop where
  number : number? v = some (2 ^ 63)
  greatest : a = .integer 9223372036854775807

/-- The word stands for no number that the position takes. -/
inductive Foreign : Parameter → Binary64 → Prop
  | unbounded (p) {x : Binary64} : x.isFinite = false → Foreign p x
  | fractional (p) {x : Binary64} : (∀ m : ℤ, x.value ≠ m) → Foreign p x
  | integer {x : Binary64} : x.value < -(2 ^ 63) ∨ 2 ^ 63 < x.value → Foreign .integer x
  | port {x : Binary64} : x.value < 0 ∨ 65535 < x.value → Foreign .port x

theorem value_of_toInt? {x : Binary64} {n : ℤ} (h : x.toInt? = some n) : x.value = n :=
  (Binary64.toInt?_eq_some_iff.1 h).2

theorem number?_double {x : Binary64} {n : ℤ} (h : x.toInt? = some n) :
    number? (.double x) = some (n : ℚ) := by
  rw [number?, if_pos (Binary64.toInt?_eq_some_iff.1 h).1, value_of_toInt? h]

theorem Denotes.number {v : Value} {n : Int64} (h : Denotes v n) :
    number? v = some (n.toInt : ℚ) ∨ Beyond v (.integer n) := by
  cases h with
  | int32 hk =>
    rw [hk]
    exact .inl rfl
  | int64 => exact .inl rfl
  | @double x m n hfinite hvalue hlow hhigh hn =>
    have hnumber : number? (.double x) = some (m : ℚ) := by
      rw [number?, if_pos hfinite, hvalue]
    by_cases hm : m = 2 ^ 63
    · refine .inr ⟨by rw [hnumber, hm]; norm_num, ?_⟩
      rw [Argument.integer.injEq]
      apply Int64.toInt.inj
      rw [hn, hm]
      rfl
    · have hsame : n.toInt = m := by omega
      rw [hsame]
      exact .inl hnumber

theorem denotes_of_number {v : Value} {n : Int64} (h : number? v = some (n.toInt : ℚ)) :
    Denotes v n := by
  cases v with
  | int32 k =>
    rw [number?, Option.some.injEq, Int.cast_inj] at h
    exact .int32 h.symm
  | int64 k =>
    rw [number?, Option.some.injEq, Int.cast_inj] at h
    rw [Int64.toInt.inj h]
    exact .int64
  | double x =>
    rw [number?, Option.ite_none_right_eq_some, Option.some.injEq] at h
    have hlow := n.le_toInt
    have hhigh := n.toInt_lt
    exact .double h.1 h.2 (by omega) (by omega) (by omega)
  | _ => cases h

theorem denotes_of_beyond {v : Value} (h : number? v = some (2 ^ 63)) :
    Denotes v 9223372036854775807 := by
  have hcast : ∀ {m : ℤ}, some (m : ℚ) = some (2 ^ 63) → m = 2 ^ 63 := by
    intro m hm
    exact_mod_cast Option.some.inj hm
  cases v with
  | int32 k =>
    have hk := hcast h
    have hhigh := k.toInt_lt
    omega
  | int64 k =>
    have hk := hcast h
    have hhigh := k.toInt_lt
    omega
  | double x =>
    rw [number?, Option.ite_none_right_eq_some, Option.some.injEq] at h
    have hvalue : x.value = (2 ^ 63 : ℤ) := by
      rw [h.2]
      norm_num
    exact .double h.1 hvalue (by norm_num) (le_refl _) rfl
  | _ => cases h

/-- A value stands for the argument that it is, apart from the one beyond the range. -/
theorem spells_iff {v : Value} {a : Argument} : Spells v a ↔ Exact v a ∨ Beyond v a := by
  constructor
  · intro h
    cases h with
    | integer hn => exact hn.number.imp_left .integer
    | @port v n p hn hp =>
      rcases hn.number with hnumber | hbeyond
      · rw [hp, Int.cast_natCast] at hnumber
        exact .inl (.port hnumber)
      · rw [Argument.integer.inj hbeyond.greatest] at hp
        have hport : p.toNat < 65536 := p.toNat_lt
        have hgreatest : (9223372036854775807 : Int64).toInt = 9223372036854775807 := rfl
        omega
    | bytes => exact .inl .bytes
  · intro h
    rcases h with h | h
    · cases h with
      | integer hn => exact .integer (denotes_of_number hn)
      | @port v p hp =>
        have hround : (Int64.ofNat p.toNat).toInt = p.toNat :=
          Int64.toInt_ofNat_of_lt (Nat.lt_of_lt_of_le p.toNat_lt (by decide))
        refine .port (denotes_of_number ?_) hround
        rw [hp, hround, Int.cast_natCast]
      | bytes => exact .bytes
    · rw [h.greatest]
      exact .integer (denotes_of_beyond h.number)

theorem Foreign.not_spells {x : Binary64} {a : Argument} (h : Foreign a.parameter x) :
    ¬ Spells (.double x) a := by
  intro hspells
  obtain ⟨hfinite, m, hvalue, hrange⟩ : x.isFinite ∧ ∃ m : ℤ, x.value = m ∧
      (a.parameter = .integer → -(2 ^ 63) ≤ m ∧ m ≤ 2 ^ 63) ∧
      (a.parameter = .port → 0 ≤ m ∧ m ≤ 65535) := by
    cases hspells with
    | integer hn =>
      cases hn with
      | double hfinite hvalue hlow hhigh hn =>
        exact ⟨hfinite, _, hvalue, fun _ => ⟨hlow, hhigh⟩, nofun⟩
    | @port _ _ p hn hp =>
      cases hn with
      | double hfinite hvalue hlow hhigh hn =>
        have hport : p.toNat < 65536 := p.toNat_lt
        exact ⟨hfinite, _, hvalue, nofun, fun _ => by omega⟩
  generalize a.parameter = q at h hrange
  cases h with
  | unbounded q h => simp [hfinite] at h
  | fractional q h => exact h m hvalue
  | integer h =>
    rw [hvalue] at h
    have hout : m < -(2 ^ 63) ∨ 2 ^ 63 < m := by exact_mod_cast h
    have hin := hrange.1 rfl
    omega
  | port h =>
    rw [hvalue] at h
    have hout : m < 0 ∨ 65535 < m := by exact_mod_cast h
    have hin := hrange.2 rfl
    omega

namespace Request

theorem decode_of_read? {frame : Bytes} {d : Document} (h : Document.read? frame = some d) :
    decode frame = ofDocument d := by
  unfold decode readDocument
  rw [h]
  rfl

theorem read?_of_decode {frame : Bytes} {r : Request} (h : decode frame = .ok r) :
    ∃ d, Document.read? frame = some d ∧ ofDocument d = .ok r := by
  cases hread : Document.read? frame with
  | none =>
    unfold decode readDocument at h
    rw [hread] at h
    cases h
  | some d => exact ⟨d, rfl, by rw [← decode_of_read? hread, h]⟩

theorem decode_of_spells {frame : Bytes} {d : Document} {items : List Value} {r : Request}
    (hd : Document.read? frame = some d) (henveloped : Enveloped d r.method.name items)
    (hitems : List.Forall₂ Spells items r.parts) : decode frame = .ok r := by
  rw [decode_of_read? hd]
  exact ofDocument_eq_ok_iff.2 ⟨items, henveloped, hitems⟩

/-- A word that is foreign to its position spoils the whole request. -/
theorem unfit_of_foreign {m : Method} {items : List Value} {i : Nat} {p : Parameter} {x : Binary64}
    (hp : m.parameters[i]? = some p) (hx : items[i]? = some (.double x)) (h : Foreign p x) :
    ∃ f, Unfit m items f := by
  cases hread : ofArguments m items with
  | ok r =>
    obtain ⟨rfl, hspells⟩ := ofArguments_eq_ok_iff.1 hread
    rw [← map_parameter_parts, List.getElem?_map, Option.map_eq_some_iff] at hp
    obtain ⟨a, ha, rfl⟩ := hp
    obtain ⟨hi, hvalue⟩ := List.getElem?_eq_some_iff.1 hx
    obtain ⟨hj, hargument⟩ := List.getElem?_eq_some_iff.1 ha
    have hfits := (List.forall₂_iff_get.1 hspells).2 i hi hj
    rw [List.get_eq_getElem, List.get_eq_getElem, hvalue, hargument] at hfits
    exact absurd hfits h.not_spells
  | error e =>
    obtain ⟨f, hf, -⟩ := ofArguments_eq_error_iff.1 hread
    exact ⟨f, hf⟩

/-- A frame is accepted if its arguments are those of the request, number for number, apart from the
one number beyond the range; with a word that is foreign to its position it is refused. -/
theorem numbers_exact (frame : Bytes) :
    (∀ r, decode frame = .ok r ↔ ∃ d items, Document.read? frame = some d ∧
      Enveloped d r.method.name items ∧
      List.Forall₂ (fun v a => Exact v a ∨ Beyond v a) items r.parts) ∧
    ∀ d (m : Method) (items : List Value) (i : Nat) p x, Document.read? frame = some d →
      Enveloped d m.name items → m.parameters[i]? = some p → items[i]? = some (.double x) →
      Foreign p x → ∃ f, decode frame = .error (.badArguments m.name f) := by
  have hspells : Spells = fun v a => Exact v a ∨ Beyond v a := by
    ext v a
    exact spells_iff
  refine ⟨fun r => ?_, fun d m items i p x hd henveloped hp hx hforeign => ?_⟩
  · rw [← hspells]
    constructor
    · intro h
      obtain ⟨d, hd, hr⟩ := read?_of_decode h
      obtain ⟨items, henveloped, hitems⟩ := ofDocument_eq_ok_iff.1 hr
      exact ⟨d, items, hd, henveloped, hitems⟩
    · intro h
      obtain ⟨d, items, hd, henveloped, hitems⟩ := h
      exact decode_of_spells hd henveloped hitems
  · obtain ⟨f, hf⟩ := unfit_of_foreign hp hx hforeign
    refine ⟨f, ?_⟩
    rw [decode_of_read? hd]
    exact ofDocument_eq_error_iff.2 (.arguments henveloped hf)

/-- A call of a method with words for arguments. -/
def calling (m : Method) (words : List Binary64) : Document :=
  [("method", .string m.name), ("args", .array (words.map .double))]

theorem enveloped_calling (m : Method) (words : List Binary64) :
    Enveloped (calling m words) m.name (words.map .double) where
  method := .long ⟨[], _, rfl, by simp⟩
  args := .long ⟨[_], [], rfl, nofun⟩

theorem read?_calling {m : Method} {words : List Binary64}
    (h : (calling m words).layout.length < 2147483648) :
    Document.read? (calling m words).layout = some (calling m words) := by
  have harray : (Value.array (words.map .double)).Readable := by
    refine Bson.readable_array (fun v hv => ?_) ?_
    · obtain ⟨x, -, rfl⟩ := List.mem_map.1 hv
      exact Bson.readable_double x
    · simp only [calling, Document.layout, Bson.length_enclose, Bson.fieldsLayout,
        Bson.elementLayout, List.length_append, List.length_cons] at h
      omega
  have hname : (Value.string m.name).Readable := by
    apply Bson.readable_string
    cases m <;> decide +kernel
  have hread := Document.read?_layout (d := calling m words) ?_ h []
  · rwa [List.append_nil] at hread
  · simp [calling, plainKey_method, plainKey_args, hname, harray]

/-- A datagram socket is bound with floating-point words, and then to a port that is none. -/
theorem numbers_exact_bind :
    decode (calling .bind [⟨0x4000000000000000⟩, ⟨0x40bf900000000000⟩]).layout =
      .ok (.bind 2 8080) ∧
      ∃ f, decode (calling .bind [⟨0x4000000000000000⟩, ⟨0x43f0000000000000⟩]).layout =
        .error (.badArguments "bind" f) := by
  constructor
  · refine ((numbers_exact _).1 _).2 ⟨_, _, read?_calling (by decide +kernel),
      enveloped_calling _ _, ?_⟩
    have hid : Exact (.double ⟨0x4000000000000000⟩) (.integer 2) :=
      .integer (number?_double (by decide +kernel))
    have hport : Exact (.double ⟨0x40bf900000000000⟩) (.port 8080) :=
      .port (number?_double (n := 8080) (by decide +kernel))
    exact .cons (.inl hid) (.cons (.inl hport) .nil)
  · have hvalue := value_of_toInt? (x := ⟨0x43f0000000000000⟩) (n := 2 ^ 64) (by decide +kernel)
    refine (numbers_exact _).2 _ .bind _ 1 .port ⟨0x43f0000000000000⟩
      (read?_calling (by decide +kernel)) (enveloped_calling _ _) rfl rfl (.port (.inr ?_))
    rw [hvalue]
    norm_num

/-- The number beyond the range is taken for the greatest integer. -/
theorem beyond_accepted : ¬ ∀ frame r d items, decode frame = .ok r →
    Document.read? frame = some d → Enveloped d r.method.name items →
    List.Forall₂ Exact items r.parts := by
  intro h
  have hnumber : number? (.double ⟨0x43e0000000000000⟩) = some ((2 ^ 63 : ℤ) : ℚ) :=
    number?_double (by decide +kernel)
  have hread : Document.read? (calling .socketClose [⟨0x43e0000000000000⟩]).layout = some _ :=
    read?_calling (by decide +kernel)
  have hbeyond : Beyond (.double ⟨0x43e0000000000000⟩) (.integer 9223372036854775807) :=
    ⟨by rw [hnumber]; norm_num, rfl⟩
  have hdecode : decode _ = .ok (.socketClose 9223372036854775807) :=
    decode_of_spells hread (enveloped_calling _ _) (.cons (spells_iff.2 (.inr hbeyond)) .nil)
  cases h _ _ _ _ hdecode hread (enveloped_calling _ _) with
  | cons hexact _ =>
    cases hexact with
    | integer hgreatest =>
      rw [hnumber, Option.some.injEq, Int.cast_inj] at hgreatest
      exact absurd hgreatest (by decide)

end Request

end SocketRelay.Protocol
