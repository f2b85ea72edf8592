import SocketRelay.Bson.Extended

/-!
# Reading documents

A byte string is read as a document by recursion on its bytes: every element is read and checked,
embedded documents and arrays to any depth. `Document.read?` looks at the first document of a buffer
only; bytes behind it are no part of it.

Reading and writing documents is the work of a library. `Document.read?` and `Document.write?` are
what the protocol relies on in it: the length in front decides where a document ends, every element
is checked whether anybody asks for it or not, nesting is not limited, an array is its elements in
order whatever their keys are, and writing keeps the fields in their order. How the library says
what is wrong with a buffer is left out.

A document with an extended key is the value that the key stands for. Elements before the key are
checked and dropped, and the rest of that document is not looked at. At the top such a value is no
document, so the buffer is refused.
-/
namespace SocketRelay.Bson

mutual

def Element.value? (e : Element) : Option Value :=
  match e.type with
  | .document =>
    match h : body? e.payload with
    | some (inner, _) =>
      have := body?_length h
      fields? [] inner
    | none => none
  | .array =>
    match h : body? e.payload with
    | some (inner, _) =>
      have := body?_length h
      (items? inner).map .array
    | none => none
  | .javaScriptCodeWithScope =>
    match ht : text? (e.payload.drop 4) with
    | some (code, scopeBytes) =>
      match h : body? scopeBytes with
      | some (inner, []) =>
        have := body?_length h
        have : scopeBytes.length < e.payload.length := by
          have := text?_length ht
          simp only [List.length_drop] at this
          omega
        match fields? [] inner with
        | some (.document scope) => some (.javaScriptCodeWithScope code scope)
        | _ => none
      | _ => none
    | none => none
  | _ => e.scalar?
termination_by e.payload.length

/-- The value of a document body, given the fields that came before it. -/
def fields? (before : List (String × Value)) (bs : Bytes) : Option Value :=
  match h : Element.split? bs with
  | none => if bs.isEmpty then some (.document before.reverse) else none
  | some (e, rest) =>
    have := Element.split?_payload_lt h
    have := Element.split?_rest_lt h
    match Extended.ofKey? e.key with
    | none =>
      match e.value? with
      | some v => fields? ((e.key, v) :: before) rest
      | none => none
    | some .code =>
      match e.string? with
      | some code =>
        if rest.isEmpty then some (.javaScriptCode code)
        else
          match hs : Element.split? rest with
          | some (e', _) =>
            have := Element.split?_payload_lt hs
            if e'.key = "$scope" then
              match e'.value? with
              | some (.document scope) => some (.javaScriptCodeWithScope code scope)
              | _ => none
            else none
          | none => none
      | none => none
    | some .scope =>
      match e.value? with
      | some (.document scope) =>
        match Element.split? rest with
        | some (e', _) =>
          if e'.key = "$code" then
            e'.string?.map fun code => .javaScriptCodeWithScope code scope
          else none
        | none => none
      | _ => none
    | some k => k.scalar? e
termination_by bs.length

/-- The values of an array body, whatever their keys. -/
def items? (bs : Bytes) : Option (List Value) :=
  match h : Element.split? bs with
  | none => if bs.isEmpty then some [] else none
  | some (e, rest) =>
    have := Element.split?_payload_lt h
    have := Element.split?_rest_lt h
    match e.value? with
    | some v => (items? rest).map (v :: ·)
    | none => none
termination_by bs.length

end

/-- The document at the front of a buffer. -/
def Document.read? (bs : Bytes) : Option Document :=
  match body? bs with
  | some (inner, _) =>
    match fields? [] inner with
    | some (.document d) => some d
    | _ => none
  | none => none

end SocketRelay.Bson
