import SocketRelay.Bson.Value

/-!
# The byte layout of documents

How a value is laid out in bytes: a document is its length, its elements and a zero byte; an element
is a tag, a key with a zero byte, and a payload; an array is a document whose keys count up from
zero. The length counts itself and the final zero byte.

The layout is a function of the value alone. It is faithful as long as every length fits a signed
32-bit word; `Document.write?` refuses a document beyond that.
-/
namespace SocketRelay.Bson

/-- Elements between their length and the final zero byte. -/
def enclose (body : Bytes) : Bytes := Bytes.le 4 (body.length + 5) ++ body ++ [0]

@[simp] theorem length_enclose (body : Bytes) : (enclose body).length = body.length + 5 := by
  simp [enclose]; omega

/-- A text with a zero byte behind it. -/
def zeroTerminated (s : String) : Bytes := Bytes.ofText s ++ [0]

/-- A text as a payload: its length with the final zero byte, its bytes, the zero byte. -/
def textLayout (s : String) : Bytes :=
  Bytes.le 4 ((Bytes.ofText s).length + 1) ++ zeroTerminated s

/-- The payload of a binary value. Subtype 2 repeats the length inside. -/
def binaryLayout (subtype : UInt8) (data : Bytes) : Bytes :=
  if subtype = 2 then
    Bytes.le 4 (data.length + 4) ++ subtype :: Bytes.le 4 data.length ++ data
  else Bytes.le 4 data.length ++ subtype :: data

def elementLayout (type : ElementType) (key : String) (payload : Bytes) : Bytes :=
  type.tag :: zeroTerminated key ++ payload

mutual

def Value.layout : Value → Bytes
  | .double x => Bytes.le 8 x.bits.toNat
  | .string s => textLayout s
  | .document fields => enclose (fieldsLayout fields)
  | .array items => enclose (itemsLayout 0 items)
  | .binary subtype data => binaryLayout subtype data
  | .undefined => []
  | .objectId id => id
  | .boolean b => [if b then 1 else 0]
  | .dateTime ms => Bytes.le 8 ms.toUInt64.toNat
  | .null => []
  | .regularExpression pattern options => zeroTerminated pattern ++ zeroTerminated options
  | .dbPointer collection id => textLayout collection ++ id
  | .javaScriptCode code => textLayout code
  | .symbol s => textLayout s
  | .javaScriptCodeWithScope code scope =>
    let inner := textLayout code ++ enclose (fieldsLayout scope)
    Bytes.le 4 (inner.length + 4) ++ inner
  | .int32 n => Bytes.le 4 n.toUInt32.toNat
  | .timestamp word => Bytes.le 8 word.toNat
  | .int64 n => Bytes.le 8 n.toUInt64.toNat
  | .decimal128 word => word
  | .maxKey => []
  | .minKey => []

def fieldsLayout : List (String × Value) → Bytes
  | [] => []
  | (key, v) :: rest => elementLayout v.type key v.layout ++ fieldsLayout rest

/-- The elements of an array from a given position on. -/
def itemsLayout (position : Nat) : List Value → Bytes
  | [] => []
  | v :: rest =>
    elementLayout v.type (toString position) v.layout ++ itemsLayout (position + 1) rest

end

def Document.layout (d : Document) : Bytes := enclose (fieldsLayout d)

/-- The bytes of a document whose length fits the length field. -/
def Document.write? (d : Document) : Option Bytes :=
  let bytes := d.layout
  if bytes.length < 2147483648 then some bytes else none

end SocketRelay.Bson
