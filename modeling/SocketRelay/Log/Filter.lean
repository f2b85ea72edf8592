import SocketRelay.Log.Directive
import SocketRelay.Settings.Environment

/-!
# Log filters

Which log records are shown. A filter is a list of directives between commas. Of the directives that
concern a record the narrowest decides, and of equally narrow ones the last: the record is shown if
its level is within the level of that directive. A filter without directives shows nothing.

The environment may ask for a filter. Without one, and for one that is not well formed, the level is
`info`.
-/
namespace SocketRelay

structure LogFilter where
  directives : List Directive
  deriving DecidableEq, Repr

namespace LogFilter

def ofLevel (level : Verbosity) : LogFilter := ⟨[⟨none, none, level, false⟩]⟩

/-- Read a filter. Commas may follow each other; the first directive at fault decides the fault. -/
def ofText (s : String) : Except FilterFault LogFilter := do
  let directives ← ((s.splitOn ",").filter (· ≠ "")).mapM Directive.ofText
  return ⟨directives⟩

/-- The filter that the environment asks for, unless that one cannot be cut into its parts. -/
def ofEnvironment (env : Environment) : Option LogFilter :=
  match (env.text? "RELAY_LOG").map ofText with
  | none => some (ofLevel .info)
  | some (.ok f) => some f
  | some (.error .refused) => some (ofLevel .info)
  | some (.error .splitCharacter) => none

def decisive? (f : LogFilter) (r : LogRecord) : Option Directive :=
  (f.directives.filter fun d => d.concerns r).foldl Directive.stronger none

def shows (f : LogFilter) (r : LogRecord) : Bool :=
  (f.decisive? r).any fun d => r.level.rank ≤ d.level.rank

end LogFilter

end SocketRelay
