/-!
# Decimal and hexadecimal numerals

Numerals as they appear in settings, in addresses and inside extended BSON values. A numeral is a
non-empty run of ASCII digits; signs are read by the callers named here, which state which signs
they take. No reader skips blanks or digit separators.
-/
namespace SocketRelay.Text

/-- The value of an ASCII decimal digit. -/
def digit? (c : Char) : Option Nat :=
  if '0' ≤ c ∧ c ≤ '9' then some (c.toNat - '0'.toNat) else none

/-- The value of an ASCII hexadecimal digit, in either case. -/
def hexDigit? (c : Char) : Option Nat :=
  if '0' ≤ c ∧ c ≤ '9' then some (c.toNat - '0'.toNat)
  else if 'a' ≤ c ∧ c ≤ 'f' then some (c.toNat - 'a'.toNat + 10)
  else if 'A' ≤ c ∧ c ≤ 'F' then some (c.toNat - 'A'.toNat + 10)
  else none

/-- Digits of a base, most significant first, folded onto a value that came before them. -/
def foldDigits (digit : Char → Option Nat) (base : Nat) : Nat → List Char → Option Nat
  | value, [] => some value
  | value, c :: cs =>
    match digit c with
    | none => none
    | some d => foldDigits digit base (value * base + d) cs

/-- A non-empty run of decimal digits. -/
def digits? (cs : List Char) : Option Nat :=
  if cs.isEmpty then none else foldDigits digit? 10 0 cs

/-- A non-empty run of hexadecimal digits. -/
def hexDigits? (cs : List Char) : Option Nat :=
  if cs.isEmpty then none else foldDigits hexDigit? 16 0 cs

def unsigned? : List Char → Option Nat
  | '+' :: cs => digits? cs
  | cs => digits? cs

def signed? : List Char → Option Int
  | '-' :: cs => (digits? cs).map fun n => -(n : Int)
  | cs => (unsigned? cs).map fun n => (n : Int)

/-- An unsigned numeral that does not exceed a bound. -/
def natural? (bound : Nat) (s : String) : Option Nat :=
  (unsigned? s.toList).filter (· ≤ bound)

/-- A signed numeral between two bounds, both included. -/
def integer? (least greatest : Int) (s : String) : Option Int :=
  (signed? s.toList).filter fun n => least ≤ n && n ≤ greatest

/-- The bytes that pairs of hexadecimal digits spell. -/
def hexBytes? : List Char → Option (List UInt8)
  | [] => some []
  | [_] => none
  | a :: b :: cs =>
    match hexDigit? a, hexDigit? b, hexBytes? cs with
    | some high, some low, some bs => some (UInt8.ofNat (16 * high + low) :: bs)
    | _, _, _ => none

end SocketRelay.Text
