import SocketRelay.Pattern.Modes
import SocketRelay.Text.Numeral

/-!
# Escapes

What may stand behind a backslash: signs that stand for themselves, control characters by a letter,
characters by two, four or eight hexadecimal digits, classes of characters, and conditions on the
place. Properties of characters and references to groups are refused.
-/
namespace SocketRelay.Pattern

inductive Escape where
  /-- The character with a code; `byte` marks one that is written as a single byte. -/
  | literal (code : Nat) (byte : Bool)
  /-- The digits, the blanks or the characters of words, or all others. -/
  | shorthand (negated : Bool)
  /-- The beginning or the end of the text. -/
  | textEdge
  /-- The edge of a word, or a place that is none. -/
  | wordEdge
  deriving DecidableEq, Repr

namespace Escape

/-- A number of hexadecimal digits, of which a value has been read already. -/
def code? (m : Modes) : Nat → Nat → List Char → Option (Nat × List Char)
  | 0, value, cs => some (value, cs)
  | n + 1, value, cs =>
    match m.skip cs with
    | [] => none
    | c :: rest => (Text.hexDigit? c).bind fun d => code? m n (16 * value + d) rest

/-- A character by some hexadecimal digits. -/
def numbered? (m : Modes) (digits : Nat) (cs : List Char) : Option (Escape × List Char) := do
  let (code, rest) ← code? m digits 0 cs
  if code.isValidChar then some (.literal code (digits = 2), rest) else none

/-- A sign or a letter for a single character. -/
def single? (c : Char) : Option Nat :=
  match c with
  | 'a' => some 0x07
  | 't' => some 0x09
  | 'n' => some 0x0a
  | 'v' => some 0x0b
  | 'f' => some 0x0c
  | 'r' => some 0x0d
  | _ => if c.toNat < 128 ∧ !c.isAlphanum then some c.toNat else none

def read? (m : Modes) : List Char → Option (Escape × List Char)
  | [] => none
  | c :: cs =>
    if c = 'x' then numbered? m 2 cs
    else if c = 'u' then numbered? m 4 cs
    else if c = 'U' then numbered? m 8 cs
    else if c ∈ ['d', 's', 'w'] then some (.shorthand false, cs)
    else if c ∈ ['D', 'S', 'W'] then some (.shorthand true, cs)
    else if c ∈ ['A', 'z'] then some (.textEdge, cs)
    else if c ∈ ['b', 'B', '<', '>'] then some (.wordEdge, cs)
    else (single? c).map fun code => (.literal code false, cs)

def admitted (m : Modes) : Escape → Bool
  | literal code byte => m.admitsLiteral code byte
  | shorthand negated => m.admitsShorthand negated
  | textEdge => true
  | wordEdge => m.admitsWordEdge

end Escape

end SocketRelay.Pattern
