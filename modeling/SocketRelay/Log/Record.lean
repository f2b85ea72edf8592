import SocketRelay.Text.Numeral

/-!
# Log records

A record has a level, a message and fields. Levels form a scale from nothing to everything: a
filter set to one level shows the records of that level and of those below it.
-/
namespace SocketRelay

/-- How much is shown, from nothing to everything. -/
inductive Verbosity where
  | off | error | warn | info | debug | trace
  deriving DecidableEq, Repr

namespace Verbosity

def rank : Verbosity → Nat
  | off => 0
  | error => 1
  | warn => 2
  | info => 3
  | debug => 4
  | trace => 5

def name : Verbosity → String
  | off => "off"
  | error => "error"
  | warn => "warn"
  | info => "info"
  | debug => "debug"
  | trace => "trace"

/-- The level that a text spells: a rank, or a name in any case. -/
def ofText? (cs : List Char) : Option Verbosity :=
  let all := [off, error, warn, info, debug, trace]
  match Text.unsigned? cs with
  | some n => all.find? fun v => v.rank = n
  | none => all.find? fun v => v.name = String.ofList (cs.map Char.toLower)

end Verbosity

/-- One thing that happened, as it is reported. -/
structure LogRecord where
  /-- The part of the program that reports it. -/
  target : String := "relay"
  level : Verbosity
  message : String
  /-- Named values in the order in which they are written. -/
  fields : List (String × String) := []
  deriving DecidableEq, Repr

namespace LogRecord

/-- The names by which a filter can ask for a record. The message counts as a field. -/
def fieldNames (r : LogRecord) : List String := "message" :: r.fields.map Prod.fst

/-- The written record: the message, and behind it each field with its value. -/
def text (r : LogRecord) : String :=
  " ".intercalate (r.message :: r.fields.map fun (name, value) => name ++ "=" ++ value)

end LogRecord

end SocketRelay
