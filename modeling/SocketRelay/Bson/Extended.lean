import SocketRelay.Bson.Element
import SocketRelay.Text.Base64

/-!
# Extended keys

Keys beginning with a dollar sign that turn the document they stand in into another value. A
document that holds such a key is read as that value: a number, a symbol, an object id, binary data,
or code. The value under the key has to be of the type stated for it.

Keys whose value is complete in one element are read by `Extended.scalar?`. Code and scope, which
go together, are read where documents are.

The notation has further keys: for dates, time stamps, regular expressions, pointers into a
collection, decimal numbers and universally unique identifiers. These are not followed: a document
that holds one of them remains a document here.
-/
namespace SocketRelay.Bson

/-- The keys with a meaning of their own. -/
inductive Extended where
  | numberInt | numberLong | numberDouble | symbol | objectId | minKey | maxKey | undefined
  | binary | code | scope
  deriving DecidableEq, Repr

namespace Extended

def ofKey? (key : String) : Option Extended :=
  if key = "$numberInt" then some numberInt
  else if key = "$numberLong" then some numberLong
  else if key = "$numberDouble" then some numberDouble
  else if key = "$symbol" then some symbol
  else if key = "$oid" then some objectId
  else if key = "$minKey" then some minKey
  else if key = "$maxKey" then some maxKey
  else if key = "$undefined" then some undefined
  else if key = "$binary" then some binary
  else if key = "$code" then some code
  else if key = "$scope" then some scope
  else none

/-- An object id: twenty-four hexadecimal digits or twelve bytes. -/
def objectId? (e : Element) : Option Value :=
  match e.scalar? with
  | some (.string s) =>
    match Text.hexBytes? s.toList with
    | some id => if id.length = 12 then some (.objectId id) else none
    | none => none
  | some (.binary _ data) => if data.length = 12 then some (.objectId data) else none
  | _ => none

def isOne (e : Element) : Bool :=
  match e.scalar? with
  | some (.int32 n) => n = 1
  | some (.int64 n) => n = 1
  | _ => false

/-- Binary data spelled as an embedded document with exactly a base 64 text and a subtype of two
hexadecimal digits, in either order. -/
def binary? (e : Element) : Option Value :=
  let fields : Option (List (String × String)) :=
    if e.type = .document then
      match body? e.payload with
      | some (inner, _) =>
        match Element.split? inner with
        | some (first, rest) =>
          match Element.split? rest with
          | some (second, []) =>
            match first.string?, second.string? with
            | some a, some b => some [(first.key, a), (second.key, b)]
            | _, _ => none
          | _ => none
        | none => none
      | none => none
    else none
  match fields with
  | some fields =>
    match fields.lookup "base64", fields.lookup "subType" with
    | some text, some subtype =>
      match Text.base64? text.toList, Text.hexBytes? subtype.toList with
      | some data, some [subtype] => some (.binary subtype data)
      | _, _ => none
    | _, _ => none
  | none => none

/-- The value of a key that is complete in one element. -/
def scalar? (k : Extended) (e : Element) : Option Value :=
  match k with
  | numberInt =>
    match e.string? with
    | some s => (Text.integer? (-2147483648) 2147483647 s).map fun n => .int32 (Int32.ofInt n)
    | none => none
  | numberLong =>
    match e.string? with
    | some s =>
      (Text.integer? (-9223372036854775808) 9223372036854775807 s).map fun n =>
        .int64 (Int64.ofInt n)
    | none => none
  | numberDouble =>
    match e.string? with
    | some s => (Binary64.ofText? s).map .double
    | none => none
  | symbol => e.string?.map .symbol
  | objectId => objectId? e
  | minKey => if isOne e then some .minKey else none
  | maxKey => if isOne e then some .maxKey else none
  | undefined =>
    match e.scalar? with
    | some (.boolean true) => some .undefined
    | _ => none
  | binary => binary? e
  | code | scope => none

end Extended

end SocketRelay.Bson
