import SocketRelay.Pattern.Bracket
import SocketRelay.Text.Alphanumeric

/-!
# Search patterns

Which texts are well formed as search patterns. A pattern is made of characters, escapes, sets in
square brackets and groups in round brackets; a star, a plus or a question mark behind one of these
repeats it, and bars separate alternatives. A group may have a name, or letters that set modes for
what it holds; a group of letters alone sets modes up to the end of the group around it.

Only the form matters here: a pattern that cannot be read makes the text around it unreadable, and
nothing is ever searched for. So a pattern is read from left to right, and of what has been read
only its depth is kept, which is limited: a group and a repetition are one deeper than what they
hold, and so are a sequence and a choice of two or more parts.

Counts in braces do not occur, because the texts that hold a pattern end it at the first closing
brace. An opening brace therefore begins a count that never ends.
-/
namespace SocketRelay.Pattern

/-- What has been read since the last bracket that is still open. -/
structure Level where
  modes : Modes := {}
  /-- The number of finished alternatives. -/
  choices : Nat := 0
  /-- The depth of the deepest of them. -/
  deepestChoice : Nat := 0
  /-- The number of parts of the alternative at hand. -/
  parts : Nat := 0
  /-- The depth of the deepest of them. -/
  deepestPart : Nat := 0
  /-- The depth of the last part, if it can be repeated. -/
  last : Option Nat := none
  deriving DecidableEq, Repr

namespace Level

def push (l : Level) (depth : Nat) : Level :=
  { l with parts := l.parts + 1, deepestPart := max l.deepestPart depth, last := some depth }

/-- Add a part that only sets modes. It cannot be repeated. -/
def setModes (l : Level) (modes : Modes) : Level :=
  { l with modes, parts := l.parts + 1, last := none }

def repeat? (l : Level) : Option Level :=
  l.last.map fun depth =>
    { l with deepestPart := max l.deepestPart (depth + 1), last := some (depth + 1) }

def sequenceDepth (l : Level) : Nat := if l.parts ≤ 1 then l.deepestPart else l.deepestPart + 1

def depth (l : Level) : Nat :=
  if l.choices = 0 then l.sequenceDepth else max l.deepestChoice l.sequenceDepth + 1

/-- Finish the alternative at hand. Modes that it set stay in force. -/
def nextChoice (l : Level) : Level where
  modes := l.modes
  choices := l.choices + 1
  deepestChoice := max l.deepestChoice l.sequenceDepth

end Level

inductive GroupHead where
  /-- Modes are set, and the group is closed already. -/
  | modes (modes : Modes)
  /-- The group holds what follows, to be read under these modes. -/
  | opened (modes : Modes) (name : Option (List Char))
  deriving DecidableEq, Repr

/-- Is the text the name of a group? It begins with a letter or an underscore. -/
def isName : List Char → Bool
  | [] => false
  | c :: cs =>
    (c = '_' || Text.isAlphabetic c) &&
      cs.all fun c => c ∈ ['_', '.', '[', ']'] || Text.isAlphanumeric c

namespace GroupHead

/-- A name up to the sign that closes it. -/
def named? (m : Modes) (cs : List Char) : Option (GroupHead × List Char) :=
  let name := cs.takeWhile (· ≠ '>')
  match cs.dropWhile (· ≠ '>') with
  | [] => none
  | _ :: rest => if isName name then some (.opened m (some name), rest) else none

/-- Read the head of a group behind its opening bracket. -/
def read? (m : Modes) (cs : List Char) : Option (GroupHead × List Char) :=
  match m.skip cs with
  | '?' :: 'P' :: '<' :: cs => named? m cs
  | '?' :: '<' :: cs => named? m cs
  | '?' :: cs =>
    match Modes.flags? [] cs with
    | some (flags, ':' :: rest) => some (.opened (m.set flags) none, rest)
    | some (flags, _ :: rest) => if flags.isEmpty then none else some (.modes (m.set flags), rest)
    | _ => none
  | cs => some (.opened m none, cs)

end GroupHead

/-- A pattern that has been read up to some place: the level at hand, the levels of the groups
around it from the inside out, and the names given so far. -/
structure Reader where
  level : Level := {}
  outer : List Level := []
  names : List (List Char) := []
  deriving DecidableEq, Repr

namespace Reader

def push (r : Reader) (depth : Nat) : Reader := { r with level := r.level.push depth }

/-- Begin a group, or set modes. A name is given only once. -/
def enter? (r : Reader) : GroupHead → Option Reader
  | .modes modes => some { r with level := r.level.setModes modes }
  | .opened modes none => some { r with level := { modes }, outer := r.level :: r.outer }
  | .opened modes (some name) =>
    if name ∈ r.names then none
    else some { level := { modes }, outer := r.level :: r.outer, names := name :: r.names }

/-- End the innermost group. The modes are those around it again. -/
def leave? (r : Reader) : Option Reader :=
  match r.outer with
  | [] => none
  | level :: outer => some { r with level := level.push (r.level.depth + 1), outer }

def repeat? (r : Reader) : Option Reader := r.level.repeat?.map fun level => { r with level }

/-- Add a part that is a single sign, if the modes admit it. -/
def sign? (r : Reader) (admitted : Bool) : Option Reader :=
  if admitted then some (r.push 0) else none

/-- Read the sign at the front, and what belongs to it. -/
def step? (r : Reader) (c : Char) (cs : List Char) : Option (Reader × List Char) :=
  let m := r.level.modes
  match c with
  | '(' => do
    let (head, rest) ← GroupHead.read? m cs
    return (← r.enter? head, rest)
  | ')' => r.leave?.map (·, cs)
  | '|' => some ({ r with level := r.level.nextChoice }, cs)
  | '[' => (Bracket.read? m cs).map fun (depth, rest) => (r.push depth, rest)
  | '\\' => do
    let (escape, rest) ← Escape.read? m cs
    return (← r.sign? (escape.admitted m), rest)
  | '*' | '+' | '?' => r.repeat?.map (·, if cs.head? = some '?' then cs.tail else cs)
  | '\x7b' => none
  | '.' => (r.sign? m.admitsComplement).map (·, cs)
  | '^' | '$' => some (r.push 0, cs)
  | _ => (r.sign? (m.admitsLiteral c.toNat false)).map (·, cs)

/-- Read to the end, in at most some number of rounds. All groups have to be closed there. The
result is the depth of the pattern. -/
def run? : Nat → Reader → List Char → Option Nat
  | 0, _, _ => none
  | n + 1, r, cs =>
    match r.level.modes.skip cs with
    | [] => if r.outer.isEmpty then some r.level.depth else none
    | c :: cs => (r.step? c cs).bind fun (r, cs) => run? n r cs

end Reader

/-- The depth of a pattern, if it can be read. Each round takes a character, so there are enough. -/
def depth? (cs : List Char) : Option Nat := Reader.run? (cs.length + 1) {} cs

def greatestDepth : Nat := 250

/-- Is the text well formed as a pattern? -/
def isWellFormed (cs : List Char) : Bool := (depth? cs).any (· ≤ greatestDepth)

end SocketRelay.Pattern
