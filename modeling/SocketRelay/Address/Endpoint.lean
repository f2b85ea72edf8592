import SocketRelay.Address.Ipv6

/-!
# Endpoints of either family

An address with a port: IPv4 as it stands, IPv6 in brackets. An IPv6 address may name its scope, a
number behind a percent sign; scope zero is not written.
-/
namespace SocketRelay

/-- An address of either family with a port. -/
inductive Endpoint where
  | v4 (endpoint : Endpoint4)
  | v6 (address : Ipv6) (scope : UInt32) (port : Port)
  deriving DecidableEq, Repr

namespace Endpoint

/-- The scope in front of the closing bracket, and what follows the bracket. -/
def scope? : List Char → Option (UInt32 × List Char)
  | ']' :: cs => some (0, cs)
  | '%' :: cs =>
    let digits := cs.takeWhile fun c => (Text.digit? c).isSome
    match Text.digits? digits, cs.dropWhile fun c => (Text.digit? c).isSome with
    | some n, ']' :: rest => if n < 4294967296 then some (UInt32.ofNat n, rest) else none
    | _, _ => none
  | _ => none

def bracketed? : List Char → Option Endpoint
  | '[' :: cs => do
    let (address, cs) ← Ipv6.read? cs
    let (scope, cs) ← scope? cs
    let port ← portSuffix? cs
    return .v6 address scope port
  | _ => none

def ofText? (s : String) : Option Endpoint :=
  match Endpoint4.ofText? s with
  | some e => some (.v4 e)
  | none => bracketed? s.toList

def text : Endpoint → String
  | v4 e => e.text
  | v6 address scope port =>
    let scopeText := if scope = 0 then "" else "%" ++ toString scope.toNat
    "[" ++ address.text ++ scopeText ++ "]:" ++ toString port.toNat

def withPort (e : Endpoint) (port : Port) : Endpoint :=
  match e with
  | v4 e => .v4 { e with port }
  | v6 address scope _ => .v6 address scope port

end Endpoint

end SocketRelay
