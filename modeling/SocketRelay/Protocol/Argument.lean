import SocketRelay.Bson.Document
import SocketRelay.Bson.Layout
import SocketRelay.Protocol.Error

/-!
# Positional arguments

A message is a method name with a list of arguments. Arguments are integers, ports and byte strings;
each has one written form and, when it is read, a wider accepted one: an integer may come as a
32-bit, a 64-bit or a floating-point number, as long as it is an integer.

The greatest integer of the protocol is `2 ^ 63 - 1`. A floating-point number is compared with what
that integer rounds to, which is `2 ^ 63`; so this number is read as the greatest integer, and all
other accepted numbers are read as themselves.
-/
namespace SocketRelay.Protocol
open Bson (Value Document)

/-- The written form of an integer: 32 bits if they suffice. -/
def integerValue (n : Int64) : Value :=
  if -2147483648 ≤ n.toInt ∧ n.toInt < 2147483648 then .int32 n.toInt32 else .int64 n

def bytesValue (data : Bytes) : Value := .binary 0 data

def portValue (port : Port) : Value := integerValue (Int64.ofNat port.toNat)

/-- The integer that a floating-point argument stands for. The bounds are floating-point numbers as
well, and what lies beyond the greatest integer is cut off to it. -/
def integerOfDouble? (x : Binary64) : Option Int64 :=
  match x.toInt? with
  | some n =>
    if Binary64.rounded Int64.minValue.toInt ≤ n ∧ n ≤ Binary64.rounded Int64.maxValue.toInt then
      some (Int64.ofInt (min n Int64.maxValue.toInt))
    else none
  | none => none

def integerOf? : Value → Option Int64
  | .int32 n => some n.toInt64
  | .int64 n => some n
  | .double x => integerOfDouble? x
  | _ => none

/-- The bytes that an argument holds, whatever its subtype. -/
def bytesOf? : Value → Option Bytes
  | .binary _ data => some data
  | _ => none

structure Arguments where
  method : String
  items : List Value

namespace Arguments

def fault (args : Arguments) (f : ArgumentFault) : WireError := .badArguments args.method f

/-- The integer at an index that the list reaches. -/
def integer (args : Arguments) (index : Nat) (v : Value) : Except WireError Int64 :=
  match integerOf? v with
  | some n => .ok n
  | none => .error (args.fault (.notInteger index v.type))

/-- The port at an index that the list reaches. -/
def port (args : Arguments) (index : Nat) (v : Value) : Except WireError Port :=
  match args.integer index v with
  | .ok n =>
    if 0 ≤ n.toInt ∧ n.toInt < 65536 then .ok (UInt16.ofNat n.toInt.toNat)
    else .error (args.fault (.notPort index n))
  | .error e => .error e

/-- The byte string at an index that the list reaches. -/
def bytes (args : Arguments) (index : Nat) (v : Value) : Except WireError Bytes :=
  match bytesOf? v with
  | some data => .ok data
  | none => .error (args.fault (.notBinary index v.type))

/-- The error for a list of another length than the method takes. -/
def wrongCount (args : Arguments) (expected : Nat) : WireError :=
  args.fault (.count expected args.items.length)

end Arguments

/-- A field of the envelope: absent, or with its value. -/
def methodName (field : String) : Option Value → Except WireError String
  | none => .error (.missingField field)
  | some (.string s) => .ok s
  | some _ => .error (.wrongType field "a string")

/-- The list of arguments in a field of the envelope. -/
def argumentList (field : String) : Option Value → Except WireError (List Value)
  | none => .error (.missingField field)
  | some (.array items) => .ok items
  | some _ => .error (.wrongType field "a list")

/-- The document at the front of a frame. -/
def readDocument (frame : Bytes) : Except WireError Document :=
  match Document.read? frame with
  | some d => .ok d
  | none => .error (.malformed none)

def writeDocument (d : Document) : Except WireError Bytes :=
  match d.write? with
  | some frame => .ok frame
  | none => .error (.unwritable "document is too long")

end SocketRelay.Protocol
