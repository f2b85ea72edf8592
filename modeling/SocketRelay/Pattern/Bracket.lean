import SocketRelay.Pattern.Escape

/-!
# Sets in brackets

A set lists members between square brackets: characters, ranges, shorthands, named ASCII sets and
further sets in brackets. A caret in front asks for the complement, and doubled signs between lists
of members combine them to the intersection, the difference or the symmetric difference.

Of a set only its depth is kept. A list of two or more members is one deeper than the deepest of
them, an operation one deeper than its operands, and a set in brackets one deeper than what it
holds.
-/
namespace SocketRelay.Pattern

/-- An open bracket and what has been read of it. -/
structure Bracket where
  /-- The number of members since the last operation. -/
  members : Nat := 0
  /-- The depth of the deepest of them. -/
  deepest : Nat := 0
  /-- The depth of the operands in front, if an operation waits for its second operand. -/
  left : Option Nat := none
  deriving DecidableEq, Repr

/-- One member of a set that is not itself in brackets. -/
inductive Member where
  | single (code : Nat)
  | shorthand (negated : Bool)
  deriving DecidableEq, Repr

namespace Member

def read? (m : Modes) : List Char → Option (Member × List Char)
  | [] => none
  | '\\' :: cs =>
    match Escape.read? m cs with
    | some (.literal code _, rest) => some (.single code, rest)
    | some (.shorthand negated, rest) => some (.shorthand negated, rest)
    | _ => none
  | c :: cs => some (.single c.toNat, cs)

def admitted (m : Modes) : Member → Bool
  | single code => m.admitsMember code
  | shorthand negated => m.admitsShorthand negated

/-- May the range between two members stand here? Its ends are characters in ascending order. -/
def admittedRange (m : Modes) : Member → Member → Bool
  | single first, single last => first ≤ last && m.admitsMember first && m.admitsMember last
  | _, _ => false

/-- Pass over a member or a range. A dash is not the sign of a range in front of a closing bracket
or of another dash. -/
def pass? (m : Modes) (cs : List Char) : Option (List Char) := do
  let (first, rest) ← read? m cs
  match m.skip rest with
  | [] => none
  | '-' :: behind =>
    if m.next? behind = some ']' ∨ m.next? behind = some '-' then
      if first.admitted m then some ('-' :: behind) else none
    else
      let (last, rest) ← read? m (m.skip behind)
      if admittedRange m first last then some rest else none
  | rest => if first.admitted m then some rest else none

end Member

def setNames : List String :=
  ["alnum", "alpha", "ascii", "blank", "cntrl", "digit", "graph", "lower", "print", "punct",
    "space", "upper", "word", "xdigit"]

/-- A named set behind its opening bracket, and whether its complement is meant. -/
def namedSet? : List Char → Option (Bool × List Char)
  | ':' :: cs =>
    let negated := cs.head? = some '^'
    let cs := if negated then cs.tail else cs
    match cs.dropWhile (· ≠ ':') with
    | ':' :: ']' :: rest =>
      if String.ofList (cs.takeWhile (· ≠ ':')) ∈ setNames then some (negated, rest) else none
    | _ => none
  | _ => none

namespace Bracket

def push (b : Bracket) (depth : Nat) : Bracket :=
  { b with members := b.members + 1, deepest := max b.deepest depth }

def depth (b : Bracket) : Nat :=
  let list := if b.members ≤ 1 then b.deepest else b.deepest + 1
  match b.left with
  | none => list
  | some left => max left list + 1

/-- Take what has been read as the first operand of an operation. -/
def operate (b : Bracket) : Bracket := { left := some b.depth }

/-- Dashes in front, with what the modes skip behind each, as far as some number of them. -/
def dashes (m : Modes) : Nat → List Char → Nat × List Char
  | n + 1, '-' :: cs =>
    let (count, rest) := dashes m n (m.skip cs)
    (count + 1, rest)
  | _, cs => (0, cs)

/-- Read the front of a set behind its opening bracket: the caret of a complement, and dashes, or
else a closing bracket, that are members because nothing stands in front of them. -/
def open? (m : Modes) (cs : List Char) : Option (Bracket × List Char) :=
  let cs := m.skip cs
  let negated := cs.head? = some '^'
  let cs := if negated then m.skip cs.tail else cs
  let (count, cs) := dashes m cs.length cs
  let (count, cs) := if count = 0 ∧ cs.head? = some ']' then (1, m.skip cs.tail) else (count, cs)
  if (negated ∧ !m.admitsComplement) ∨ (0 < count ∧ !m.admitsMember '-'.toNat) then none
  else some ({ members := count }, cs)

/-- Read on in an open bracket to the end of the outermost one, in at most some number of rounds.
The result is the depth of the whole set. -/
def rest? (m : Modes) : Nat → Bracket → List Bracket → List Char → Option (Nat × List Char)
  | 0, _, _, _ => none
  | n + 1, b, outer, cs =>
    match m.skip cs with
    | [] => none
    | '[' :: cs =>
      match namedSet? cs with
      | some (negated, cs) => if m.admitsNamed negated then rest? m n (b.push 0) outer cs else none
      | none => (open? m cs).bind fun (inner, cs) => rest? m n inner (b :: outer) cs
    | ']' :: cs =>
      match outer with
      | [] => some (b.depth + 1, cs)
      | o :: outer => rest? m n (o.push (b.depth + 1)) outer cs
    | '&' :: '&' :: cs => rest? m n b.operate outer cs
    | '-' :: '-' :: cs => rest? m n b.operate outer cs
    | '~' :: '~' :: cs => rest? m n b.operate outer cs
    | cs => (Member.pass? m cs).bind fun cs => rest? m n (b.push 0) outer cs

/-- Read a set behind its opening bracket. Each round takes a character, so there are enough. -/
def read? (m : Modes) (cs : List Char) : Option (Nat × List Char) :=
  (open? m cs).bind fun (b, rest) => rest? m (cs.length + 1) b [] rest

end Bracket

end SocketRelay.Pattern
