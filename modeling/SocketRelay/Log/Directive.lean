import SocketRelay.Binary64
import SocketRelay.Log.Record
import SocketRelay.Pattern.Basic
import SocketRelay.Text.Alphanumeric
import SocketRelay.Text.Blank
import SocketRelay.Text.Offset

/-!
# Directives of a log filter

A directive names a level, or a target with a level behind an equals sign. Brackets behind the
target ask for a span by its name, and braces in them for a field, perhaps with a value. Where no
level is given, everything is shown.

A directive is scanned without the white space around it, but the offsets found that way cut the
text with the white space. So blanks in front move every name and every level, and blanks behind
belong to the level or to a target that stands alone. A blank of several bytes can move an offset
into a character; such a directive cannot be cut at all.
-/
namespace SocketRelay

inductive FilterFault where
  /-- A directive is not well formed. -/
  | refused
  /-- An offset falls inside a character. -/
  | splitCharacter
  deriving DecidableEq, Repr

/-- What a filter says about the records of a target. -/
structure Directive where
  /-- The beginning of the targets concerned, if it is limited to some. -/
  target : Option (List Char)
  /-- The field that a record needs, if it needs one. -/
  field : Option (List Char)
  level : Verbosity
  /-- Does the directive ask for a span? Such a one says nothing about records outside spans. -/
  inSpan : Bool
  deriving DecidableEq, Repr

namespace Directive

/-- The part of a text from one offset to another. -/
def cut (piece : List Char) (start stop : Nat) : Except FilterFault (List Char) :=
  match Text.slice? start stop piece with
  | some cs => .ok cs
  | none => .error .splitCharacter

/-- The level that a text spells, which is everything if the text is empty. -/
def readLevel (cs : List Char) : Except FilterFault Verbosity :=
  if cs.isEmpty then .ok .trace
  else
    match Verbosity.ofText? cs with
    | some v => .ok v
    | none => .error .refused

def levelFrom (piece : List Char) (start : Nat) : Except FilterFault Verbosity := do
  readLevel (← cut piece start (Text.width piece))

/-- The level after the closing bracket, which may be missing. -/
def trailingLevel (piece : List Char) (offset : Nat) : List Char → Except FilterFault Verbosity
  | [] => .ok .trace
  | '=' :: _ => levelFrom piece (offset + 1)
  | _ => .error .refused

/-- Can a field be asked to have this value? A value is a number or a pattern. -/
def isValue (cs : List Char) : Bool :=
  (Binary64.ofText? (String.ofList cs)).isSome || Pattern.isWellFormed cs

/-- The name of a field that is asked for, and whether it is asked to have a value. -/
def fieldTest (cs : List Char) : Except FilterFault (List Char × Bool) :=
  let name := cs.takeWhile (· ≠ '=')
  match cs.dropWhile (· ≠ '=') with
  | [] => if cs.isEmpty then .error .refused else .ok (name, false)
  | _ :: value => if isValue (value.takeWhile (· ≠ '=')) then .ok (name, true) else .error .refused

/-- The braces of a directive from the offset of the field on, and what follows them. -/
def braces (piece : List Char) (target : Option (List Char)) (named : Bool) (start : Nat)
    (cs : List Char) : Except FilterFault Directive := do
  let stop := start + Text.width (cs.takeWhile (· ≠ '}'))
  match cs.dropWhile (· ≠ '}') with
  | [] => .error .refused
  | _ :: rest =>
    let (name, hasValue) ← fieldTest (← cut piece start stop)
    match rest with
    | ']' :: rest =>
      let level ← trailingLevel piece (stop + 2) rest
      return ⟨target, some name, level, named || hasValue⟩
    | _ => .error .refused

/-- Does the character belong to the name of a span? -/
def isSpanChar (c : Char) : Bool := c ≠ ']' && c ≠ '\x7b'

/-- The brackets of a directive from the offset of the span on, and what follows them. -/
def brackets (piece : List Char) (target : Option (List Char)) (start : Nat) (cs : List Char) :
    Except FilterFault Directive := do
  let stop := start + Text.width (cs.takeWhile isSpanChar)
  match cs.dropWhile isSpanChar with
  | [] => .error .refused
  | c :: rest =>
    let span ← cut piece start stop
    if c = ']' then
      let level ← trailingLevel piece (stop + 1) rest
      return ⟨target, none, level, true⟩
    else braces piece target (!span.isEmpty) (stop + 1) rest

/-- Can a directive that does not ask for a span alone begin with this character? -/
def mayBegin (c : Char) : Bool :=
  c = '-' || c = ':' || c = '_' || Text.isAlphanumeric c

/-- Does the character belong to the name of a target? -/
def isTargetChar (c : Char) : Bool := c ≠ '=' && c ≠ '['

/-- A directive without any sign in it: a level for all targets, or a target shown in full. -/
def plain (piece : List Char) : Directive :=
  match Verbosity.ofText? piece with
  | some level => ⟨none, none, level, false⟩
  | none => ⟨some piece, none, .trace, false⟩

/-- Scan the trimmed text of a directive, and cut the text as it stands. -/
def scan (piece : List Char) : List Char → Except FilterFault Directive
  | [] => .error .refused
  | '[' :: cs => brackets piece none 1 cs
  | c :: cs =>
    if mayBegin c then do
      let stop := Text.width ((c :: cs).takeWhile isTargetChar)
      match (c :: cs).dropWhile isTargetChar with
      | [] => return plain piece
      | sign :: rest =>
        let target ← cut piece 0 stop
        if sign = '=' then
          return ⟨some target, none, ← levelFrom piece (stop + 1), false⟩
        else brackets piece (some target) (stop + 1) rest
    else .error .refused

def ofText (s : String) : Except FilterFault Directive := scan s.toList (Text.trim s).toList

/-- Has the directive something to say about the record? -/
def concerns (d : Directive) (r : LogRecord) : Bool :=
  !d.inSpan && (d.target.all fun cs => cs.isPrefixOf r.target.toList) &&
    d.field.all fun cs => r.fieldNames.any fun name => name.toList = cs

/-- How narrow a directive is, to be compared in lexicographic order: a target narrows it by its
length, then a field does, and of two fields the one with the greater name. -/
def narrowness (d : Directive) : List Nat :=
  (d.target.map fun cs => cs.length + 1).getD 0 :: (d.field.getD []).map Char.toNat

/-- Of two directives, the narrower one; the second if they are equally narrow. -/
def stronger (best : Option Directive) (d : Directive) : Option Directive :=
  match best with
  | none => some d
  | some b =>
    if List.lex d.narrowness b.narrowness fun m n => decide (m < n) then some b else some d

end Directive

end SocketRelay
