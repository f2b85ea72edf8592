import SocketRelay.Socket.Kind
import SocketRelay.Text.Numeral

/-!
# IPv4 addresses and endpoints

Four octets, written with points between them. Each octet is read from one to three decimal digits
and has no leading zero unless it is zero; so an address has one spelling. An endpoint is an address
with a port behind a colon; a port may have leading zeros.

The readers return the rest of the text, since an address may stand inside a longer one.
-/
namespace SocketRelay

structure Ipv4 where
  a : UInt8
  b : UInt8
  c : UInt8
  d : UInt8
  deriving DecidableEq, Repr, Inhabited

namespace Ipv4

/-- The address that names no interface in particular. -/
def unspecified : Ipv4 := ⟨0, 0, 0, 0⟩

/-- The address of four octets; no other number of octets makes one. -/
def ofOctets? : List UInt8 → Option Ipv4
  | [a, b, c, d] => some ⟨a, b, c, d⟩
  | _ => none

def octet? (cs : List Char) : Option (UInt8 × List Char) :=
  let digits := cs.takeWhile fun c => (Text.digit? c).isSome
  let rest := cs.dropWhile fun c => (Text.digit? c).isSome
  if digits.length ≤ 3 ∧ (digits.head? ≠ some '0' ∨ digits.length = 1) then
    match Text.digits? digits with
    | some n => if n < 256 then some (UInt8.ofNat n, rest) else none
    | none => none
  else none

def pointOctet? : List Char → Option (UInt8 × List Char)
  | '.' :: cs => octet? cs
  | _ => none

def read? (cs : List Char) : Option (Ipv4 × List Char) := do
  let (a, cs) ← octet? cs
  let (b, cs) ← pointOctet? cs
  let (c, cs) ← pointOctet? cs
  let (d, cs) ← pointOctet? cs
  return (⟨a, b, c, d⟩, cs)

def text (x : Ipv4) : String := s!"{x.a.toNat}.{x.b.toNat}.{x.c.toNat}.{x.d.toNat}"

end Ipv4

/-- A port behind a colon, to the end of the text. -/
def portSuffix? : List Char → Option Port
  | ':' :: cs =>
    match Text.digits? cs with
    | some n => if n < 65536 then some (UInt16.ofNat n) else none
    | none => none
  | _ => none

structure Endpoint4 where
  address : Ipv4
  port : Port
  deriving DecidableEq, Repr, Inhabited

namespace Endpoint4

def ofText? (s : String) : Option Endpoint4 := do
  let (address, cs) ← Ipv4.read? s.toList
  let port ← portSuffix? cs
  return ⟨address, port⟩

def text (e : Endpoint4) : String := s!"{e.address.text}:{e.port.toNat}"

end Endpoint4

end SocketRelay
