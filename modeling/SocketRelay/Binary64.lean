import SocketRelay.Text.Numeral

/-!
# Binary64 words

A floating-point argument is kept as its 64-bit word and read as the exact number that the word
stands for: a significand times a power of two. No machine floating-point operation takes part, so
every statement about a decoded number is one about integers.

`toInt?` is the integer that a finite word denotes, if it denotes one. `ofRatio` goes the other way
and rounds an exact quotient to the nearest word, a tie to the even significand; `ofInt` converts an
integer and `ofText?` reads a decimal literal through it.
-/
namespace SocketRelay

/-- A binary64 word. -/
structure Binary64 where
  bits : UInt64
  deriving DecidableEq, Repr

namespace Binary64

/-- The weight of the lowest bit of the exponent field, which is the fifty-second power of two. -/
def exponentUnit : Nat := 4503599627370496

/-- The weight of the sign bit, which is the sixty-third power of two. -/
def signUnit : Nat := 9223372036854775808

def exponentField (x : Binary64) : Nat := x.bits.toNat / exponentUnit % 2048

def fractionField (x : Binary64) : Nat := x.bits.toNat % exponentUnit

def isNegative (x : Binary64) : Bool := signUnit ≤ x.bits.toNat

def isFinite (x : Binary64) : Bool := x.exponentField ≠ 2047

/-- The significand of a finite word; its leading bit is implicit unless the exponent field is
zero. -/
def significand (x : Binary64) : Nat :=
  if x.exponentField = 0 then x.fractionField else exponentUnit + x.fractionField

/-- The power of two that scales the significand. -/
def scale (x : Binary64) : Int :=
  if x.exponentField = 0 then -1074 else (x.exponentField : Int) - 1075

/-- The magnitude of a finite word if it is an integer. -/
def magnitude? (x : Binary64) : Option Nat :=
  if 0 ≤ x.scale then some (x.significand * Nat.pow 2 x.scale.toNat)
  else if x.significand % Nat.pow 2 (-x.scale).toNat = 0 then
    some (x.significand / Nat.pow 2 (-x.scale).toNat)
  else none

/-- The integer that the word denotes; `none` for a fraction, an infinity or a NaN. -/
def toInt? (x : Binary64) : Option Int :=
  if x.isFinite then
    x.magnitude?.map fun n => if x.isNegative then -(n : Int) else (n : Int)
  else none

/-- The quotient rounded to the nearest natural number, a half to the even one. -/
def roundDiv (num den : Nat) : Nat :=
  let q := num / den
  let twice := 2 * (num % den)
  if twice < den then q else if den < twice then q + 1 else q + q % 2

def infinity (negative : Bool) : Binary64 :=
  ⟨UInt64.ofNat (2047 * exponentUnit + if negative then signUnit else 0)⟩

def nan : Binary64 := ⟨UInt64.ofNat (2047 * exponentUnit + exponentUnit / 2)⟩

/-- `num / den` over the power `2 ^ e`, rounded. -/
def scaledDiv (num den : Nat) (e : Int) : Nat :=
  if 0 ≤ e then roundDiv num (den * Nat.pow 2 e.toNat)
  else roundDiv (num * Nat.pow 2 (-e).toNat) den

/-- The quotient of two positive numbers rounded to the nearest word. The scale is chosen so that
the rounded significand has fifty-three bits, or is as fine as subnormal words allow; a carry out of
the significand moves into the exponent field by itself. -/
def ofRatio (negative : Bool) (num den : Nat) : Binary64 :=
  if num = 0 then ⟨if negative then UInt64.ofNat signUnit else 0⟩
  else
    let guess : Int := (num.log2 : Int) - (den.log2 : Int) - 53
    let floor (e : Int) : Nat :=
      if 0 ≤ e then num / (den * Nat.pow 2 e.toNat) else num * Nat.pow 2 (-e).toNat / den
    let e := max (-1074) (if floor guess < 2 * exponentUnit then guess else guess + 1)
    let word := scaledDiv num den e + (e + 1074).toNat * exponentUnit
    if 2047 * exponentUnit ≤ word then infinity negative
    else ⟨UInt64.ofNat (word + if negative then signUnit else 0)⟩

/-- The word nearest to an integer. -/
def ofInt (n : Int) : Binary64 := ofRatio (n < 0) n.natAbs 1

/-- What becomes of an integer that is converted to a word. One of more than fifty-three bits may
become another integer, and one beyond all words remains as it is. -/
def rounded (n : Int) : Int := (ofInt n).toInt?.getD n

/-- Digits scaled by a power of ten, where `count` is the number of decimal digits of `digits`.
Powers far outside the range of binary64 are answered without computing them. -/
def ofDecimal (negative : Bool) (digits count : Nat) (power : Int) : Binary64 :=
  if digits = 0 then ofRatio negative 0 1
  else if 310 < power + count then infinity negative
  else if power + count < -326 then ofRatio negative 0 1
  else if 0 ≤ power then ofRatio negative (digits * Nat.pow 10 power.toNat) 1
  else ofRatio negative digits (Nat.pow 10 (-power).toNat)

/-- The exponent part of a literal: empty, or a letter and a signed numeral. -/
def exponent? : List Char → Option Int
  | [] => some 0
  | c :: cs => if c = 'e' ∨ c = 'E' then Text.signed? cs else none

/-- An unsigned decimal literal: digits with at most one point among them, at least one digit, then
an optional exponent. -/
def unsignedLiteral? (negative : Bool) (cs : List Char) : Option Binary64 :=
  let isDigit (c : Char) : Bool := (Text.digit? c).isSome
  let whole := cs.takeWhile isDigit
  let afterWhole := cs.dropWhile isDigit
  let fraction := match afterWhole with
    | '.' :: rest => rest.takeWhile isDigit
    | _ => []
  let afterFraction := match afterWhole with
    | '.' :: rest => rest.dropWhile isDigit
    | rest => rest
  let leading := (whole ++ fraction).dropWhile (· = '0')
  match Text.digits? (whole ++ fraction), exponent? afterFraction with
  | some digits, some power =>
    some (ofDecimal negative digits leading.length (power - fraction.length))
  | _, _ => none

/-- A literal after its sign: a decimal literal, or the name of an infinity or a NaN in any case. -/
def magnitudeLiteral? (negative : Bool) (cs : List Char) : Option Binary64 :=
  let name := String.ofList (cs.map Char.toLower)
  if name = "inf" ∨ name = "infinity" then some (infinity negative)
  else if name = "nan" then some nan
  else unsignedLiteral? negative cs

def ofText? (s : String) : Option Binary64 :=
  match s.toList with
  | '-' :: cs => magnitudeLiteral? true cs
  | '+' :: cs => magnitudeLiteral? false cs
  | cs => magnitudeLiteral? false cs

end Binary64

end SocketRelay
