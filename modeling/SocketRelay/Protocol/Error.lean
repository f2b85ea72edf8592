import SocketRelay.Bson.Value
import SocketRelay.Socket.Kind

/-!
# Envelope errors

Why a frame is no message of the protocol. Each error is a cause with what is known about it; the
wording is in `WireError.message` alone.
-/
namespace SocketRelay.Protocol

/-- What is wrong with the arguments of a known method. -/
inductive ArgumentFault where
  /-- The list has the wrong length. -/
  | count (expected found : Nat)
  /-- The argument at an index is no integer. -/
  | notInteger (index : Nat) (found : Bson.ElementType)
  /-- The argument at an index is an integer but no port. -/
  | notPort (index : Nat) (value : Int64)
  /-- The argument at an index is no byte string. -/
  | notBinary (index : Nat) (found : Bson.ElementType)
  /-- A fault in the words of whoever reports it. -/
  | stated (text : String)
  deriving DecidableEq, Repr

def ArgumentFault.message : ArgumentFault → String
  | count expected found => s!"expected {expected} arguments, got {found}"
  | notInteger index found => s!"argument {index} must be an integer, got {found.name}"
  | notPort index value => s!"argument {index} is not a port: {value.toInt}"
  | notBinary index found => s!"argument {index} must be binary, got {found.name}"
  | stated text => text

/-- Why a frame is refused, or an event not written. -/
inductive WireError where
  /-- The bytes are no document. -/
  | malformed (detail : Option String)
  | missingField (field : String)
  | wrongType (field expected : String)
  | unknownMethod (name : String)
  | badArguments (method : String) (fault : ArgumentFault)
  /-- The document is too long to be written. -/
  | unwritable (detail : String)
  deriving DecidableEq, Repr

def WireError.message : WireError → String
  | malformed none => "malformed document"
  | malformed (some detail) => "malformed document: " ++ detail
  | missingField field => "request field `" ++ field ++ "` is not defined"
  | wrongType field expected => "request field `" ++ field ++ "` is not " ++ expected
  | unknownMethod name => "unknown method: " ++ name
  | badArguments method fault => "bad arguments for `" ++ method ++ "`: " ++ fault.message
  | unwritable detail => "cannot encode event: " ++ detail

end SocketRelay.Protocol
