import SocketRelay.Proofs.Bson.Reading
import SocketRelay.Protocol.Event

/-!
# Messages come through

A message is a name and a list of arguments, laid out as a document. A frame that was written for
one is read as it was written, whatever follows it; the frame of an event is read as that event.
Every event without data can be written, and one with data as long as its frame is not too long.
-/
namespace SocketRelay.Protocol
open Bson (Value Document PlainKey)

theorem integerOf?_integerValue (n : Int64) : integerOf? (integerValue n) = some n := by
  unfold integerValue
  split
  · rename_i h
    have hround : n.toInt32.toInt64 = n := by
      apply Int64.toInt.inj
      rw [Int32.toInt_toInt64, Int64.toInt_toInt32]
      exact Int.bmod_eq_of_le (by omega) (by omega)
    rw [integerOf?, hround]
  · rfl

theorem integer_integerValue (args : Arguments) (index : Nat) (n : Int64) :
    args.integer index (integerValue n) = .ok n := by
  rw [Arguments.integer, integerOf?_integerValue]

theorem bytes_bytesValue (args : Arguments) (index : Nat) (data : Bytes) :
    args.bytes index (bytesValue data) = .ok data := rfl

theorem readable_integerValue (n : Int64) : (integerValue n).Readable := by
  unfold integerValue
  split
  · exact Bson.readable_int32 _
  · exact Bson.readable_int64 n

theorem length_integerValue_le (n : Int64) : (integerValue n).layout.length ≤ 8 := by
  unfold integerValue
  split <;> simp [Value.layout]

theorem readable_bytesValue {data : Bytes} (h : (bytesValue data).layout.length < 2147483648) :
    (bytesValue data).Readable := by
  have hlength : (bytesValue data).layout.length = data.length + 5 := by
    simp [bytesValue, Value.layout, Bson.binaryLayout]
    omega
  exact Bson.readable_binary (by decide) (by omega)

/-- The values that arguments are written as. -/
inductive Written : Value → Prop
  | integer (n : Int64) : Written (integerValue n)
  | bytes (data : Bytes) : Written (bytesValue data)

theorem Written.readable {v : Value} (hv : Written v) (h : v.layout.length < 2147483648) :
    v.Readable := by
  cases hv with
  | integer n => exact readable_integerValue n
  | bytes data => exact readable_bytesValue h

theorem length_layout_le {v : Value} {items : List Value} (h : v ∈ items) (position : Nat) :
    v.layout.length ≤ (Bson.itemsLayout position items).length := by
  induction items generalizing position with
  | nil => cases h
  | cons u items ih =>
    rw [Bson.itemsLayout, List.length_append, Bson.elementLayout]
    simp only [List.length_cons, List.length_append]
    rcases List.mem_cons.1 h with rfl | h
    · omega
    · have := ih h (position + 1)
      omega

theorem writeDocument_eq_ok {d : Document} {frame : Bytes} :
    writeDocument d = .ok frame ↔ d.layout.length < 2147483648 ∧ d.layout = frame := by
  unfold writeDocument Document.write?
  by_cases h : d.layout.length < 2147483648 <;> simp [h]

theorem readDocument_message {nameField listField name : String} {items : List Value}
    {frame : Bytes} (hname : PlainKey nameField) (hlist : PlainKey listField)
    (hitems : ∀ v ∈ items, Written v)
    (h : writeDocument [(nameField, .string name), (listField, .array items)] = .ok frame)
    (rest : Bytes) :
    readDocument (frame ++ rest) = .ok [(nameField, .string name), (listField, .array items)] := by
  obtain ⟨hlength, rfl⟩ := writeDocument_eq_ok.1 h
  have hparts : (Value.string name).layout.length < 2147483648 ∧
      (Value.array items).layout.length < 2147483648 := by
    simp only [Document.layout, Bson.length_enclose, Bson.fieldsLayout, Bson.elementLayout,
      List.length_append, List.length_cons] at hlength
    omega
  have htext : (Bytes.ofText name).length + 1 < 2147483648 := by
    have hshort := hparts.1
    simp only [Value.layout, Bson.textLayout, Bson.zeroTerminated, List.length_append] at hshort
    simp at hshort
    omega
  have harray : (Value.array items).Readable := by
    refine Bson.readable_array (fun v hv => (hitems v hv).readable ?_) hparts.2
    have hshort := hparts.2
    rw [Value.layout, Bson.length_enclose] at hshort
    have := length_layout_le hv 0
    omega
  have hread : Document.read? (Document.layout _ ++ rest) = some _ :=
    Document.read?_layout (d := [(nameField, .string name), (listField, .array items)])
      ?_ hlength rest
  · rw [readDocument, hread]
  · simp [hname, hlist, harray, Bson.readable_string htext]

namespace Event

theorem plainKey_m : PlainKey "m" := ⟨by decide +kernel, by decide⟩

theorem plainKey_a : PlainKey "a" := ⟨by decide +kernel, by decide⟩

theorem written_arguments (e : Event) : ∀ v ∈ e.arguments, Written v := by
  cases e with
  | recv id data =>
    simp only [arguments, List.forall_mem_cons]
    exact ⟨.integer id, .bytes data, List.forall_mem_nil _⟩
  | closed id =>
    simp only [arguments, List.forall_mem_cons]
    exact ⟨.integer id, List.forall_mem_nil _⟩
  | connected id success =>
    simp only [arguments, List.forall_mem_cons]
    exact ⟨.integer id, .integer _, List.forall_mem_nil _⟩

theorem ofDocument_document (e : Event) : ofDocument e.document = .ok e := by
  have hget : e.document.get? "m" = some (.string e.method) ∧
      e.document.get? "a" = some (.array e.arguments) := by
    simp [document, Document.get?]
  unfold ofDocument
  rw [hget.1, hget.2]
  change ofArguments e.method e.arguments = .ok e
  cases e with
  | recv id data =>
    simp only [ofArguments, method, arguments, if_true, integer_integerValue, bytes_bytesValue]
    rfl
  | closed id =>
    simp only [ofArguments, method, arguments, String.reduceEq, if_false, if_true,
      integer_integerValue]
    rfl
  | connected id success =>
    simp only [ofArguments, method, arguments, String.reduceEq, if_false, if_true,
      integer_integerValue]
    cases success <;> rfl

/-- What was written for an event is read as that event. -/
theorem decode_encode {e : Event} {frame : Bytes} (h : e.encode = .ok frame) (rest : Bytes) :
    decode (frame ++ rest) = .ok e := by
  have hread := readDocument_message plainKey_m plainKey_a e.written_arguments h rest
  unfold decode
  rw [hread]
  exact e.ofDocument_document

/-- The data that an event carries. -/
def data? : Event → Option Bytes
  | recv _ data => some data
  | closed _ => none
  | connected _ _ => none

/-- Less than a hundred bytes come on top of the data. -/
theorem encode_of_length {e : Event}
    (h : ∀ data, e.data? = some data → data.length + 100 ≤ 2147483648) :
    ∃ frame, e.encode = .ok frame := by
  have hkeys : (Bytes.ofText "m").length = 1 ∧ (Bytes.ofText "a").length = 1 ∧
      (Bytes.ofText (Nat.repr 0)).length = 1 ∧ (Bytes.ofText (Nat.repr 1)).length = 1 := by
    decide +kernel
  have hnames : (Bytes.ofText "recv").length = 4 ∧ (Bytes.ofText "closed").length = 6 ∧
      (Bytes.ofText "connected").length = 9 := by
    decide +kernel
  refine ⟨_, writeDocument_eq_ok.2 ⟨?_, rfl⟩⟩
  cases e with
  | recv id data =>
    have hid := length_integerValue_le id
    have hdata := h data rfl
    simp [document, arguments, method, bytesValue, Document.layout, Bson.fieldsLayout,
      Bson.elementLayout, Value.layout, Bson.itemsLayout, Bson.textLayout, Bson.zeroTerminated,
      Bson.binaryLayout, hkeys, hnames]
    omega
  | closed id =>
    have hid := length_integerValue_le id
    simp [document, arguments, method, Document.layout, Bson.fieldsLayout, Bson.elementLayout,
      Value.layout, Bson.itemsLayout, Bson.textLayout, Bson.zeroTerminated, hkeys, hnames]
    omega
  | connected id success =>
    have hid := length_integerValue_le id
    have hsuccess := length_integerValue_le (if success then 1 else 0)
    simp [document, arguments, method, Document.layout, Bson.fieldsLayout, Bson.elementLayout,
      Value.layout, Bson.itemsLayout, Bson.textLayout, Bson.zeroTerminated, hkeys, hnames]
    omega

/-- The event can be written. -/
def fits (e : Event) : Bool := e.encode.isOk

theorem fits_of_length {e : Event}
    (h : ∀ data, e.data? = some data → data.length + 100 ≤ 2147483648) : e.fits := by
  obtain ⟨frame, hframe⟩ := encode_of_length h
  unfold fits
  rw [hframe]
  rfl

/-- Only data can make an event too long. -/
theorem fits_of_dataless {e : Event} (h : e.data? = none) : e.fits := by
  refine fits_of_length fun data hdata => ?_
  rw [h] at hdata
  cases hdata

end Event

end SocketRelay.Protocol
