import SocketRelay.Bson.Value

/-!
# Elements

The front of a document body cut into one element and the rest. The extent of a payload follows from
its type and, for the types of variable size, from the length in front of it; so elements are told
apart without looking into embedded documents. `split?_payload_lt` and `split?_rest_lt` say that
both parts are shorter than the body, which is what lets readers of nested documents recurse.

Payloads of the types without embedded documents are read here as well, by `scalar?`.
-/
namespace SocketRelay.Bson

structure Element where
  type : ElementType
  key : String
  payload : Bytes

/-- A signed 32-bit length from the front of a buffer. -/
def length? (bs : Bytes) : Option Int :=
  (Bytes.readLe 4 bs).map fun p => Bytes.signed32 p.1

/-- The number of payload bytes at the front of a buffer. Lengths below the least that the type
allows have no extent. -/
def payloadSize? (type : ElementType) (bs : Bytes) : Option Nat :=
  let prefixed (least : Int) (around : Nat) : Option Nat :=
    match length? bs with
    | some n => if least ≤ n then some (n.toNat + around) else none
    | none => none
  match type with
  | .undefined | .null | .maxKey | .minKey => some 0
  | .boolean => some 1
  | .int32 => some 4
  | .double | .dateTime | .timestamp | .int64 => some 8
  | .objectId => some 12
  | .decimal128 => some 16
  | .string | .javaScriptCode | .symbol => prefixed 1 4
  | .document | .array => prefixed 5 0
  | .javaScriptCodeWithScope => prefixed 14 0
  | .binary => prefixed 0 5
  | .dbPointer => prefixed 1 16
  | .regularExpression =>
    match Bytes.untilZero? bs with
    | some (_, options) =>
      match Bytes.untilZero? options with
      | some (_, rest) => some (bs.length - rest.length)
      | none => none
    | none => none

/-- The first element of a body and what follows it. -/
def Element.split? : Bytes → Option (Element × Bytes)
  | [] => none
  | tag :: afterTag =>
    match ElementType.ofTag? tag, Bytes.untilZero? afterTag with
    | some type, some (keyBytes, afterKey) =>
      match Bytes.text? keyBytes, payloadSize? type afterKey with
      | some key, some size =>
        match Bytes.split? size afterKey with
        | some (payload, rest) => some (⟨type, key, payload⟩, rest)
        | none => none
      | _, _ => none
    | _, _ => none

theorem Element.split?_length {bs rest : Bytes} {e : Element}
    (h : Element.split? bs = some (e, rest)) : e.payload.length + rest.length < bs.length := by
  unfold Element.split? at h
  split at h
  · simp at h
  · rename_i tag afterTag
    split at h
    · rename_i keyBytes afterKey _ hkey
      split at h
      · split at h
        · rename_i payload rest' hsplit
          simp only [Option.some.injEq, Prod.mk.injEq] at h
          obtain ⟨rfl, rfl⟩ := h
          have hk := Bytes.length_of_untilZero? hkey
          obtain ⟨-, rfl⟩ := Bytes.split?_eq_some_iff.1 hsplit
          simp only [List.length_append] at hk
          simp only [List.length_cons]
          omega
        · simp at h
      · simp at h
    · simp at h

theorem Element.split?_payload_lt {bs rest : Bytes} {e : Element}
    (h : Element.split? bs = some (e, rest)) : e.payload.length < bs.length := by
  have := Element.split?_length h
  omega

theorem Element.split?_rest_lt {bs rest : Bytes} {e : Element}
    (h : Element.split? bs = some (e, rest)) : rest.length < bs.length := by
  have := Element.split?_length h
  omega

/-- A length-prefixed text from the front: at least its zero byte, which must be there, and valid
UTF-8 before it. Zero bytes inside are allowed. -/
def text? (bs : Bytes) : Option (String × Bytes) :=
  match Bytes.readLe 4 bs with
  | some (word, rest) =>
    let n := Bytes.signed32 word
    if 1 ≤ n then
      match Bytes.split? (n.toNat - 1) rest with
      | some (body, 0 :: rest) => (Bytes.text? body).map fun s => (s, rest)
      | _ => none
    else none
  | none => none

theorem text?_length {bs rest : Bytes} {s : String} (h : text? bs = some (s, rest)) :
    rest.length < bs.length := by
  unfold text? at h
  split at h
  · rename_i word after hread
    have hlen := Bytes.length_of_readLe hread
    generalize Bytes.signed32 word = n at h
    simp only [Option.ite_none_right_eq_some] at h
    obtain ⟨-, h⟩ := h
    split at h
    · rename_i body rest' hb
      obtain ⟨-, rfl⟩ := Bytes.split?_eq_some_iff.1 hb
      simp only [Option.map_eq_some_iff, Prod.mk.injEq] at h
      obtain ⟨-, -, -, rfl⟩ := h
      simp only [List.length_append, List.length_cons] at hlen
      omega
    · simp at h
  · simp at h

/-- The elements inside a length, at least five, and a final zero byte. -/
def body? (bs : Bytes) : Option (Bytes × Bytes) :=
  match Bytes.readLe 4 bs with
  | some (word, rest) =>
    let n := Bytes.signed32 word
    if 5 ≤ n then
      match Bytes.split? (n.toNat - 5) rest with
      | some (inner, 0 :: rest) => some (inner, rest)
      | _ => none
    else none
  | none => none

theorem body?_length {bs inner rest : Bytes} (h : body? bs = some (inner, rest)) :
    inner.length < bs.length := by
  unfold body? at h
  split at h
  · rename_i word after hread
    have hlen := Bytes.length_of_readLe hread
    generalize Bytes.signed32 word = n at h
    simp only [Option.ite_none_right_eq_some] at h
    obtain ⟨-, h⟩ := h
    split at h
    · rename_i body rest' hb
      obtain ⟨-, rfl⟩ := Bytes.split?_eq_some_iff.1 hb
      simp only [Option.some.injEq, Prod.mk.injEq] at h
      rw [← h.1]
      simp only [List.length_append, List.length_cons] at hlen
      omega
    · simp at h
  · simp at h

/-- The data of a binary payload. Subtype 2 repeats the length inside, and it must agree. -/
def binary? (payload : Bytes) : Option (UInt8 × Bytes) :=
  match payload.drop 4 with
  | [] => none
  | subtype :: data =>
    if subtype = 2 then
      match Bytes.readLe 4 data with
      | some (word, inner) =>
        if Bytes.signed32 word = (inner.length : Int) then some (subtype, inner) else none
      | none => none
    else some (subtype, data)

def Element.word (e : Element) : Nat := Bytes.ofLe e.payload

/-- The payload of a type without embedded documents. -/
def Element.scalar? (e : Element) : Option Value :=
  match e.type with
  | .double => some (.double ⟨UInt64.ofNat e.word⟩)
  | .string => (text? e.payload).map fun p => .string p.1
  | .binary => (binary? e.payload).map fun p => .binary p.1 p.2
  | .undefined => some .undefined
  | .objectId => some (.objectId e.payload)
  | .boolean => if e.word = 0 then some (.boolean false)
    else if e.word = 1 then some (.boolean true) else none
  | .dateTime => some (.dateTime (UInt64.ofNat e.word).toInt64)
  | .null => some .null
  | .regularExpression =>
    match Bytes.untilZero? e.payload with
    | some (pattern, rest) =>
      match Bytes.text? pattern, Bytes.text? rest.dropLast with
      | some pattern, some options => some (.regularExpression pattern options)
      | _, _ => none
    | none => none
  | .dbPointer => (text? e.payload).map fun p => .dbPointer p.1 p.2
  | .javaScriptCode => (text? e.payload).map fun p => .javaScriptCode p.1
  | .symbol => (text? e.payload).map fun p => .symbol p.1
  | .int32 => some (.int32 (UInt32.ofNat e.word).toInt32)
  | .timestamp => some (.timestamp (UInt64.ofNat e.word))
  | .int64 => some (.int64 (UInt64.ofNat e.word).toInt64)
  | .decimal128 => some (.decimal128 e.payload)
  | .maxKey => some .maxKey
  | .minKey => some .minKey
  | .document | .array | .javaScriptCodeWithScope => none

def Element.string? (e : Element) : Option String :=
  if e.type = .string then (text? e.payload).map Prod.fst else none

end SocketRelay.Bson
