import SocketRelay.Protocol.Argument

/-!
# Requests

What a client asks for. A request travels as a document with a method name and a list of arguments;
the fields may carry their long names or their short ones, the long ones going first. Decoding
checks in a fixed order: the document, the method, the arguments as a list, the name of the method,
the number of arguments, and then the arguments from left to right. The first failing check is the
error.

Kinds and addresses are kept as they come. Whether they make sense is for the session to say.
-/
namespace SocketRelay.Protocol
open Bson (Value Document)

inductive Method where
  | socket | socketClose | bind | connect | send | sendto
  deriving DecidableEq, Repr

namespace Method

def name : Method → String
  | socket => "socket"
  | socketClose => "socket_close"
  | bind => "bind"
  | connect => "connect"
  | send => "send"
  | sendto => "sendto"

def ofName? (s : String) : Option Method :=
  [socket, socketClose, bind, connect, send, sendto].find? fun m => m.name = s

/-- The number of arguments that the method takes. -/
def arity : Method → Nat
  | socket => 2
  | socketClose => 1
  | bind => 2
  | connect => 3
  | send => 2
  | sendto => 4

end Method

/-- A request with arguments of the right types. -/
inductive Request where
  | socket (id : SocketId) (kind : Int64)
  | socketClose (id : SocketId)
  | bind (id : SocketId) (port : Port)
  | connect (id : SocketId) (address : Bytes) (port : Port)
  | send (id : SocketId) (data : Bytes)
  | sendto (id : SocketId) (address : Bytes) (port : Port) (data : Bytes)
  deriving DecidableEq, Repr

namespace Request

def method : Request → Method
  | socket _ _ => .socket
  | socketClose _ => .socketClose
  | bind _ _ => .bind
  | connect _ _ _ => .connect
  | send _ _ => .send
  | sendto _ _ _ _ => .sendto

def socketId : Request → SocketId
  | socket id _ => id
  | socketClose id => id
  | bind id _ => id
  | connect id _ _ => id
  | send id _ => id
  | sendto id _ _ _ => id

def arguments : Request → List Value
  | socket id kind => [integerValue id, integerValue kind]
  | socketClose id => [integerValue id]
  | bind id port => [integerValue id, portValue port]
  | connect id address port => [integerValue id, bytesValue address, portValue port]
  | send id data => [integerValue id, bytesValue data]
  | sendto id address port data =>
    [integerValue id, bytesValue address, portValue port, bytesValue data]

def document (r : Request) : Document :=
  [("method", .string r.method.name), ("args", .array r.arguments)]

def encode (r : Request) : Except WireError Bytes := writeDocument r.document

/-- The request that a method makes of its arguments. -/
def ofArguments (m : Method) (items : List Value) : Except WireError Request :=
  let args : Arguments := ⟨m.name, items⟩
  match m, items with
  | .socket, [a, b] => do
    let id ← args.integer 0 a
    let kind ← args.integer 1 b
    return .socket id kind
  | .socketClose, [a] => do
    let id ← args.integer 0 a
    return .socketClose id
  | .bind, [a, b] => do
    let id ← args.integer 0 a
    let port ← args.port 1 b
    return .bind id port
  | .connect, [a, b, c] => do
    let id ← args.integer 0 a
    let address ← args.bytes 1 b
    let port ← args.port 2 c
    return .connect id address port
  | .send, [a, b] => do
    let id ← args.integer 0 a
    let data ← args.bytes 1 b
    return .send id data
  | .sendto, [a, b, c, d] => do
    let id ← args.integer 0 a
    let address ← args.bytes 1 b
    let port ← args.port 2 c
    let data ← args.bytes 3 d
    return .sendto id address port data
  | _, _ => .error (args.wrongCount m.arity)

def ofDocument (d : Document) : Except WireError Request := do
  let name ← methodName "method" (d.get? "method" <|> d.get? "m")
  let items ← argumentList "args" (d.get? "args" <|> d.get? "a")
  match Method.ofName? name with
  | none => .error (.unknownMethod name)
  | some m => ofArguments m items

def decode (frame : Bytes) : Except WireError Request := do
  let d ← readDocument frame
  ofDocument d

end Request

end SocketRelay.Protocol
