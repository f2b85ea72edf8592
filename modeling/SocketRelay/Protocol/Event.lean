import SocketRelay.Protocol.Argument

/-!
# Events

What the relay tells a client of its own accord: data that arrived, the end of a socket, the outcome
of a connect. Events use the short field names only, so a request's envelope is not that of an
event.
-/
namespace SocketRelay.Protocol
open Bson (Value Document)

inductive Event where
  | recv (id : SocketId) (data : Bytes)
  | closed (id : SocketId)
  | connected (id : SocketId) (success : Bool)
  deriving DecidableEq, Repr

namespace Event

def method : Event → String
  | recv _ _ => "recv"
  | closed _ => "closed"
  | connected _ _ => "connected"

def socketId : Event → SocketId
  | recv id _ => id
  | closed id => id
  | connected id _ => id

def arguments : Event → List Value
  | recv id data => [integerValue id, bytesValue data]
  | closed id => [integerValue id]
  | connected id success => [integerValue id, integerValue (if success then 1 else 0)]

def document (e : Event) : Document :=
  [("m", .string e.method), ("a", .array e.arguments)]

def encode (e : Event) : Except WireError Bytes := writeDocument e.document

/-- The event that a name makes of its arguments. -/
def ofArguments (name : String) (items : List Value) : Except WireError Event :=
  let args : Arguments := ⟨name, items⟩
  if name = "recv" then
    match items with
    | [a, b] => do
      let id ← args.integer 0 a
      let data ← args.bytes 1 b
      return .recv id data
    | _ => .error (args.wrongCount 2)
  else if name = "closed" then
    match items with
    | [a] => do
      let id ← args.integer 0 a
      return .closed id
    | _ => .error (args.wrongCount 1)
  else if name = "connected" then
    match items with
    | [a, b] => do
      let id ← args.integer 0 a
      let success ← args.integer 1 b
      return .connected id (success ≠ 0)
    | _ => .error (args.wrongCount 2)
  else .error (.unknownMethod name)

def ofDocument (d : Document) : Except WireError Event := do
  let name ← methodName "m" (d.get? "m")
  let items ← argumentList "a" (d.get? "a")
  ofArguments name items

def decode (frame : Bytes) : Except WireError Event := do
  let d ← readDocument frame
  ofDocument d

end Event

end SocketRelay.Protocol
