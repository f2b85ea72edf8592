import SocketRelay.Binary64
import SocketRelay.Bytes.Word

/-!
# BSON values

The twenty-one element types of BSON, each with its tag byte and its name, and the values of those
types. A document keeps its fields in the order of the bytes, repeated keys included; a look-up by
key sees the last field of that key.

`Value.document` holds only fields that were read or written one by one. Whether a byte string
spells a document is the subject of the modules `Layout` and `Document`.
-/
namespace SocketRelay.Bson

inductive ElementType where
  | double | string | document | array | binary | undefined | objectId | boolean | dateTime | null
  | regularExpression | dbPointer | javaScriptCode | symbol | javaScriptCodeWithScope | int32
  | timestamp | int64 | decimal128 | maxKey | minKey
  deriving DecidableEq, Repr

namespace ElementType

/-- The byte in front of an element of the type. -/
def tag : ElementType → UInt8
  | double => 0x01
  | string => 0x02
  | document => 0x03
  | array => 0x04
  | binary => 0x05
  | undefined => 0x06
  | objectId => 0x07
  | boolean => 0x08
  | dateTime => 0x09
  | null => 0x0a
  | regularExpression => 0x0b
  | dbPointer => 0x0c
  | javaScriptCode => 0x0d
  | symbol => 0x0e
  | javaScriptCodeWithScope => 0x0f
  | int32 => 0x10
  | timestamp => 0x11
  | int64 => 0x12
  | decimal128 => 0x13
  | maxKey => 0x7f
  | minKey => 0xff

def ofTag? (b : UInt8) : Option ElementType :=
  [double, string, document, array, binary, undefined, objectId, boolean, dateTime, null,
    regularExpression, dbPointer, javaScriptCode, symbol, javaScriptCodeWithScope, int32,
    timestamp, int64, decimal128, maxKey, minKey].find? fun t => t.tag = b

theorem ofTag?_tag (t : ElementType) : ofTag? t.tag = some t := by cases t <;> decide

def name : ElementType → String
  | double => "Double"
  | string => "String"
  | document => "EmbeddedDocument"
  | array => "Array"
  | binary => "Binary"
  | undefined => "Undefined"
  | objectId => "ObjectId"
  | boolean => "Boolean"
  | dateTime => "DateTime"
  | null => "Null"
  | regularExpression => "RegularExpression"
  | dbPointer => "DbPointer"
  | javaScriptCode => "JavaScriptCode"
  | symbol => "Symbol"
  | javaScriptCodeWithScope => "JavaScriptCodeWithScope"
  | int32 => "Int32"
  | timestamp => "Timestamp"
  | int64 => "Int64"
  | decimal128 => "Decimal128"
  | maxKey => "MaxKey"
  | minKey => "MinKey"

end ElementType

inductive Value where
  | double (x : Binary64)
  | string (s : String)
  | document (fields : List (String × Value))
  | array (items : List Value)
  | binary (subtype : UInt8) (data : Bytes)
  | undefined
  | objectId (id : Bytes)
  | boolean (b : Bool)
  | dateTime (milliseconds : Int64)
  | null
  | regularExpression (pattern options : String)
  | dbPointer (collection : String) (id : Bytes)
  | javaScriptCode (code : String)
  | symbol (s : String)
  | javaScriptCodeWithScope (code : String) (scope : List (String × Value))
  | int32 (n : Int32)
  | timestamp (word : UInt64)
  | int64 (n : Int64)
  | decimal128 (word : Bytes)
  | maxKey
  | minKey
  deriving Inhabited

def Value.type : Value → ElementType
  | .double _ => .double
  | .string _ => .string
  | .document _ => .document
  | .array _ => .array
  | .binary _ _ => .binary
  | .undefined => .undefined
  | .objectId _ => .objectId
  | .boolean _ => .boolean
  | .dateTime _ => .dateTime
  | .null => .null
  | .regularExpression _ _ => .regularExpression
  | .dbPointer _ _ => .dbPointer
  | .javaScriptCode _ => .javaScriptCode
  | .symbol _ => .symbol
  | .javaScriptCodeWithScope _ _ => .javaScriptCodeWithScope
  | .int32 _ => .int32
  | .timestamp _ => .timestamp
  | .int64 _ => .int64
  | .decimal128 _ => .decimal128
  | .maxKey => .maxKey
  | .minKey => .minKey

/-- The fields of a document in the order of its bytes. -/
abbrev Document := List (String × Value)

/-- The value of the last field with this key. -/
def Document.get? (d : Document) (key : String) : Option Value :=
  (d.reverse.find? fun f => f.1 = key).map Prod.snd

end SocketRelay.Bson
