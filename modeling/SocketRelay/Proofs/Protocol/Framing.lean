import SocketRelay.Proofs.Protocol.Message
import SocketRelay.Protocol.Request

/-!
# Frames end themselves

A frame carries its own length, so a reader needs no mark between two frames: what stands behind a
frame is not looked at, and a frame that is cut short is no document. `Framed` collects what this
means for one kind of message; requests and events are both framed, though their envelopes differ
and their encoders share nothing but the layout of arguments.
-/
namespace SocketRelay

namespace Bytes

theorem readLe_append {width word : Nat} {bs rest : Bytes} (h : readLe width bs = some (word, rest))
    (more : Bytes) : readLe width (bs ++ more) = some (word, rest ++ more) := by
  simp only [readLe, Option.map_eq_some_iff, Prod.mk.injEq, Prod.exists] at h ⊢
  obtain ⟨front, after, hsplit, hword, hafter⟩ := h
  obtain ⟨hlength, hbs⟩ := split?_eq_some_iff.1 hsplit
  refine ⟨front, after ++ more, ?_, hword, by rw [hafter]⟩
  apply split?_eq_some_iff.2
  exact ⟨hlength, by rw [hbs, List.append_assoc]⟩

end Bytes

namespace Bson

theorem body?_append {bs inner rest : Bytes} (h : body? bs = some (inner, rest)) (more : Bytes) :
    body? (bs ++ more) = some (inner, rest ++ more) := by
  unfold body? at h ⊢
  split at h
  · rename_i word after hread
    rw [Bytes.readLe_append hread more]
    by_cases hleast : 5 ≤ Bytes.signed32 word
    · simp only [if_pos hleast] at h ⊢
      split at h
      · rename_i front behind hsplit
        obtain ⟨hlength, hafter⟩ := Bytes.split?_eq_some_iff.1 hsplit
        cases h
        have hmore : after ++ more = inner ++ 0 :: (rest ++ more) := by
          simp [hafter]
        simp only [hmore, Bytes.split?_append hlength]
      · cases h
    · simp [hleast] at h
  · cases h

/-- What is enclosed is no body before its last byte. -/
theorem body?_eq_none_of_prefix {inner part : Bytes} (h : inner.length + 5 < 2147483648)
    (hpart : part <+: enclose inner) (hshort : part ≠ enclose inner) : body? part = none := by
  obtain ⟨more, hmore⟩ := hpart
  cases hread : body? part with
  | none => rfl
  | some found =>
    -- The reader would find the same body in the whole, and there nothing is left behind it.
    have hwhole := body?_append hread more
    have hexact := body?_enclose h []
    rw [List.append_nil, ← hmore, hwhole] at hexact
    simp only [Option.some.injEq, Prod.mk.injEq, List.append_eq_nil_iff] at hexact
    apply absurd hmore
    rw [hexact.2.2, List.append_nil]
    exact hshort

theorem Document.read?_eq_none_of_prefix {d : Document} {part : Bytes}
    (h : d.layout.length < 2147483648) (hpart : part <+: d.layout) (hshort : part ≠ d.layout) :
    Document.read? part = none := by
  rw [Document.layout, length_enclose] at h
  rw [Document.read?, body?_eq_none_of_prefix h hpart hshort]

end Bson

namespace Protocol
open Bson (Value Document PlainKey)

theorem port_portValue (args : Arguments) (index : Nat) (port : Port) :
    args.port index (portValue port) = .ok port := by
  have hbound : port.toNat < 65536 := port.toNat_lt
  have hround : (Int64.ofNat port.toNat).toInt = port.toNat :=
    Int64.toInt_ofNat_of_lt (Nat.lt_of_lt_of_le hbound (by decide))
  have hport : 0 ≤ (port.toNat : Int) ∧ (port.toNat : Int) < 65536 := by omega
  rw [Arguments.port, portValue, integer_integerValue]
  simp [hround, hport]

namespace Request

theorem plainKey_method : PlainKey "method" := ⟨by decide +kernel, by decide⟩

theorem plainKey_args : PlainKey "args" := ⟨by decide +kernel, by decide⟩

theorem written_arguments (r : Request) : ∀ v ∈ r.arguments, Written v := by
  cases r with
  | socket id kind =>
    simp only [arguments, List.forall_mem_cons]
    exact ⟨.integer id, .integer kind, List.forall_mem_nil _⟩
  | socketClose id =>
    simp only [arguments, List.forall_mem_cons]
    exact ⟨.integer id, List.forall_mem_nil _⟩
  | bind id port =>
    simp only [arguments, List.forall_mem_cons]
    exact ⟨.integer id, .integer _, List.forall_mem_nil _⟩
  | connect id address port =>
    simp only [arguments, List.forall_mem_cons]
    exact ⟨.integer id, .bytes address, .integer _, List.forall_mem_nil _⟩
  | send id data =>
    simp only [arguments, List.forall_mem_cons]
    exact ⟨.integer id, .bytes data, List.forall_mem_nil _⟩
  | sendto id address port data =>
    simp only [arguments, List.forall_mem_cons]
    exact ⟨.integer id, .bytes address, .integer _, .bytes data, List.forall_mem_nil _⟩

theorem ofArguments_arguments (r : Request) : ofArguments r.method r.arguments = .ok r := by
  cases r <;>
    simp [ofArguments, method, arguments, integer_integerValue, bytes_bytesValue,
      port_portValue] <;>
    rfl

theorem ofDocument_document (r : Request) : ofDocument r.document = .ok r := by
  have hmethod : (r.document.get? "method" <|> r.document.get? "m") =
      some (.string r.method.name) := by
    simp [document, Document.get?]
  have hargs : (r.document.get? "args" <|> r.document.get? "a") = some (.array r.arguments) := by
    simp [document, Document.get?]
  have hname : Method.ofName? r.method.name = some r.method := by
    cases r <;> rfl
  unfold ofDocument
  rw [hmethod, hargs]
  dsimp only [methodName, argumentList, Bind.bind, Except.bind]
  rw [hname]
  exact r.ofArguments_arguments

end Request

/-- How one kind of message travels. -/
structure Framed {μ : Type} (document : μ → Document) (encode : μ → Except WireError Bytes)
    (decode : Bytes → Except WireError μ) : Prop where
  /-- A message has a frame if its layout fits the length field, and the frame is that layout. -/
  written : ∀ m frame, encode m = .ok frame ↔
    (document m).layout.length < 2147483648 ∧ (document m).layout = frame
  /-- The frame is read as the message, whatever follows it. -/
  read : ∀ m frame, encode m = .ok frame → ∀ rest, decode (frame ++ rest) = .ok m
  /-- Nothing is read from a frame that is cut short. -/
  cut : ∀ m frame, encode m = .ok frame → ∀ part, part <+: frame → part ≠ frame →
    decode part = .error (.malformed none)
  /-- Two messages have different frames. -/
  injective : ∀ m n frame, encode m = .ok frame → encode n = .ok frame → m = n
  /-- No frame begins another one. -/
  prefixFree : ∀ m n frame longer, encode m = .ok frame → encode n = .ok longer →
    frame <+: longer → m = n ∧ frame = longer

/-- Messages of a name and a list of arguments are framed if their document is read back. -/
theorem framed_envelope {μ : Type} {nameField listField : String} {name : μ → String}
    {items : μ → List Value} {ofDocument : Document → Except WireError μ}
    (hname : PlainKey nameField) (hlist : PlainKey listField)
    (hitems : ∀ m, ∀ v ∈ items m, Written v)
    (hread : ∀ m,
      ofDocument [(nameField, .string (name m)), (listField, .array (items m))] = .ok m) :
    Framed (fun m => [(nameField, .string (name m)), (listField, .array (items m))])
      (fun m => writeDocument [(nameField, .string (name m)), (listField, .array (items m))])
      (fun frame => readDocument frame >>= ofDocument) := by
  have read : ∀ m frame,
      writeDocument [(nameField, .string (name m)), (listField, .array (items m))] = .ok frame →
      ∀ rest, (readDocument (frame ++ rest) >>= ofDocument) = .ok m := by
    intro m frame h rest
    rw [readDocument_message hname hlist (hitems m) h rest]
    exact hread m
  have prefixFree : ∀ m n frame longer,
      writeDocument [(nameField, .string (name m)), (listField, .array (items m))] = .ok frame →
      writeDocument [(nameField, .string (name n)), (listField, .array (items n))] = .ok longer →
      frame <+: longer → m = n := by
    intro m n frame longer hm hn hfront
    obtain ⟨rest, rfl⟩ := hfront
    have hfirst := read m frame hm rest
    have hsecond := read n _ hn []
    rw [List.append_nil, hfirst] at hsecond
    exact Except.ok.inj hsecond
  constructor
  · exact fun m frame => writeDocument_eq_ok
  · exact read
  · intro m frame h part hpart hshort
    obtain ⟨hlength, rfl⟩ := writeDocument_eq_ok.1 h
    rw [readDocument, Document.read?_eq_none_of_prefix hlength hpart hshort]
    rfl
  · exact fun m n frame hm hn => prefixFree m n frame frame hm hn (List.prefix_refl frame)
  · intro m n frame longer hm hn hfront
    have hsame := prefixFree m n frame longer hm hn hfront
    rw [hsame, hn] at hm
    exact ⟨hsame, (Except.ok.inj hm).symm⟩

/-- Both directions of the protocol are framed. -/
theorem messages_framed :
    Framed Request.document Request.encode Request.decode ∧
      Framed Event.document Event.encode Event.decode :=
  ⟨framed_envelope Request.plainKey_method Request.plainKey_args Request.written_arguments
      Request.ofDocument_document,
    framed_envelope Event.plainKey_m Event.plainKey_a Event.written_arguments
      Event.ofDocument_document⟩

/-- The bytes of a frame: its length, the name, and a list of one 32-bit number. -/
example :
    (Event.closed (-1)).encode.toOption = some
      [34, 0, 0, 0, 2, 109, 0, 7, 0, 0, 0, 99, 108, 111, 115, 101, 100, 0,
        4, 97, 0, 12, 0, 0, 0, 16, 48, 0, 255, 255, 255, 255, 0, 0] := by decide +kernel

end Protocol

end SocketRelay
