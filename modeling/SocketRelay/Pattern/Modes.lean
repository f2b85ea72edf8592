import SocketRelay.Text.Blank

/-!
# Modes of a pattern

A pattern is read under modes, which letters in a group can turn on and off. Three of them decide
what is well formed: case may be ignored, characters may be Unicode or single bytes, and blanks and
comments may be skipped.

Patterns know cases, classes and words of ASCII only. So in Unicode mode nothing may ask for them:
under ignored case not even a plain character stands, since its other case is unknown. In byte mode
they are known, but then all that is matched has to be valid text: no byte of 128 or more on its
own, and no set that would hold such a byte.
-/
namespace SocketRelay.Pattern

/-- How a pattern is read from some place on. -/
structure Modes where
  /-- Case is ignored. -/
  caseless : Bool := false
  /-- Characters are Unicode, and not bytes. -/
  unicode : Bool := true
  /-- Blanks are skipped, and comments from a number sign to the end of the line. -/
  spaced : Bool := false
  deriving DecidableEq, Repr

namespace Modes

/-- The letters that turn a mode on or off. Those that change only what matches are letters, too. -/
def letters : List Char := ['i', 'm', 's', 'U', 'u', 'R', 'x']

/-- Letters and at most one dash up to a colon or a closing bracket, which stays in front of the
rest. No sign comes twice, and the dash does not come last. -/
def flags? (seen : List Char) : List Char → Option (List Char × List Char)
  | [] => none
  | c :: cs =>
    if c = ':' ∨ c = ')' then
      if seen.getLast? = some '-' then none else some (seen, c :: cs)
    else if (c = '-' ∨ c ∈ letters) ∧ c ∉ seen then flags? (seen ++ [c]) cs
    else none

/-- A mode under its letter: on if the letter stands in front of the dash, off if behind it. -/
def setting (flags : List Char) (letter : Char) (before : Bool) : Bool :=
  if letter ∈ flags.takeWhile (· ≠ '-') then true
  else if letter ∈ flags then false
  else before

def set (m : Modes) (flags : List Char) : Modes where
  caseless := setting flags 'i' m.caseless
  unicode := setting flags 'u' m.unicode
  spaced := setting flags 'x' m.spaced

/-- Pass over blanks and comments; `comment` says whether one has begun. -/
def skipBlanks (comment : Bool) : List Char → List Char
  | [] => []
  | c :: cs =>
    if comment then skipBlanks (c ≠ '\n') cs
    else if Text.isBlank c then skipBlanks false cs
    else if c = '#' then skipBlanks true cs
    else c :: cs

def skip (m : Modes) (cs : List Char) : List Char := if m.spaced then skipBlanks false cs else cs

/-- The character that counts as next where a dash might begin a range. Blanks are passed over, and
one number sign among them, but not the comment behind it; if nothing but blanks follows, the first
of them counts. -/
def next? (m : Modes) (cs : List Char) : Option Char :=
  if m.spaced then
    let here := cs.dropWhile Text.isBlank
    let there := if here.head? = some '#' then here.tail.dropWhile Text.isBlank else here
    there.head?.or cs.head?
  else cs.head?

/-- May a character stand for itself? `byte` marks one that is written as a single byte. -/
def admitsLiteral (m : Modes) (code : Nat) (byte : Bool) : Bool :=
  if m.unicode then !m.caseless else !byte || code < 128

/-- May a character be a member of a set? -/
def admitsMember (m : Modes) (code : Nat) : Bool := if m.unicode then !m.caseless else code < 128

def admitsNamed (m : Modes) (negated : Bool) : Bool := if m.unicode then !m.caseless else !negated

/-- May the digits, the blanks or the characters of words stand here? -/
def admitsShorthand (m : Modes) (negated : Bool) : Bool := !m.unicode && !negated

/-- May any character or the complement of a set stand here? Neither is valid text in byte mode. -/
def admitsComplement (m : Modes) : Bool := m.unicode

/-- May the edge of a word stand here? -/
def admitsWordEdge (m : Modes) : Bool := !m.unicode

end Modes

end SocketRelay.Pattern
