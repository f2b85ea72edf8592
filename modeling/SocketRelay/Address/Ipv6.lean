import SocketRelay.Address.Ipv4

/-!
# IPv6 addresses

Eight groups of sixteen bits. In writing, groups of one to four hexadecimal digits stand between
colons, one run of zero groups may be left out between two colons, and the last two groups may be
spelled as an IPv4 address.

`Ipv6.text` gives the canonical spelling: the longest run of at least two zero groups is left out,
the first of equally long ones, and an address that embeds an IPv4 address shows it.
-/
namespace SocketRelay

structure Ipv6 where
  groups : List UInt16
  length_eq : groups.length = 8
  deriving DecidableEq, Repr

namespace Ipv6

/-- One to four hexadecimal digits at the front. -/
def group? (cs : List Char) : Option (UInt16 × List Char) :=
  let digits := cs.takeWhile fun c => (Text.hexDigit? c).isSome
  let rest := cs.dropWhile fun c => (Text.hexDigit? c).isSome
  if digits.length ≤ 4 then
    match Text.hexDigits? digits with
    | some n => some (UInt16.ofNat n, rest)
    | none => none
  else none

/-- The text behind the colon that separates a group from the one before it. The first group has
none. -/
def afterSeparator? (isFirst : Bool) (cs : List Char) : Option (List Char) :=
  if isFirst then some cs
  else
    match cs with
    | ':' :: rest => some rest
    | _ => none

/-- Groups found at the front of a text. -/
structure Groups where
  groups : List UInt16
  endsInIpv4 : Bool
  rest : List Char

/-- As many groups as there are, at most `room` of them. An IPv4 address counts as two. -/
def readGroups : (room : Nat) → (isFirst : Bool) → List Char → Groups
  | 0, _, cs => ⟨[], false, cs⟩
  | room + 1, isFirst, cs =>
    match afterSeparator? isFirst cs with
    | none => ⟨[], false, cs⟩
    | some inner =>
      let embedded := if 1 ≤ room then Ipv4.read? inner else none
      match embedded with
      | some (x, rest) =>
        ⟨[x.a.toUInt16 * 256 + x.b.toUInt16, x.c.toUInt16 * 256 + x.d.toUInt16], true, rest⟩
      | none =>
        match group? inner with
        | some (g, rest) =>
          let more := readGroups room false rest
          ⟨g :: more.groups, more.endsInIpv4, more.rest⟩
        | none => ⟨[], false, cs⟩

/-- The address with these groups, if there are eight. -/
def ofGroups? (groups : List UInt16) : Option Ipv6 :=
  if h : groups.length = 8 then some ⟨groups, h⟩ else none

/-- An address at the front. The groups before a gap do not end in an IPv4 address, and a gap
stands for at least one group. -/
def read? (cs : List Char) : Option (Ipv6 × List Char) :=
  let head := readGroups 8 true cs
  if head.groups.length = 8 then
    (ofGroups? head.groups).map fun x => (x, head.rest)
  else if head.endsInIpv4 then none
  else
    match head.rest with
    | ':' :: ':' :: cs =>
      let tail := readGroups (7 - head.groups.length) true cs
      let gap := List.replicate (8 - head.groups.length - tail.groups.length) 0
      (ofGroups? (head.groups ++ gap ++ tail.groups)).map fun x => (x, tail.rest)
    | _ => none

/-- The lower-case hexadecimal digits of a group, without leading zeros. -/
def groupText (g : UInt16) : String := String.ofList (Nat.toDigits 16 g.toNat)

def joined (groups : List UInt16) : String := ":".intercalate (groups.map groupText)

/-- The number of zero groups at the front. -/
def zeros (groups : List UInt16) : Nat := (groups.takeWhile (· = 0)).length

/-- Start and length of the longest run of zero groups, the first of equally long ones; groups are
counted from a given position. -/
def longestZeros (start : Nat) : List UInt16 → Nat × Nat
  | [] => (start, 0)
  | g :: rest =>
    let here := zeros (g :: rest)
    let later := longestZeros (start + 1) rest
    if later.2 ≤ here then (start, here) else later

def mappedIpv4? (x : Ipv6) : Option Ipv4 :=
  match x.groups with
  | [0, 0, 0, 0, 0, 0xffff, g, h] =>
    some ⟨(g / 256).toUInt8, (g % 256).toUInt8, (h / 256).toUInt8, (h % 256).toUInt8⟩
  | _ => none

def text (x : Ipv6) : String :=
  match x.mappedIpv4? with
  | some v4 => "::ffff:" ++ v4.text
  | none =>
    let (start, count) := longestZeros 0 x.groups
    if 2 ≤ count then
      joined (x.groups.take start) ++ "::" ++ joined (x.groups.drop (start + count))
    else joined x.groups

end Ipv6

end SocketRelay
