import SocketRelay.Address.Endpoint
import SocketRelay.Bytes.Word
import SocketRelay.Text.Blank

/-!
# Environment variables

A setting comes from a variable's bytes. A value that is not UTF-8 counts as unset; a text is
trimmed before it is read; a text that cannot be read counts as unset as well, so that a bad value
falls back to the default and never stops the program. The namespace `Reading` holds how single
values are spelled.
-/
namespace SocketRelay

/-- The variables of a process and their raw values. -/
abbrev Environment := List (String × Bytes)

namespace Environment

/-- The text of a variable, if it is set to one. -/
def text? (env : Environment) (name : String) : Option String :=
  (env.lookup name).bind Bytes.text?

def setting? {α : Type} (env : Environment) (read : String → Option α) (name : String) : Option α :=
  (env.text? name).bind fun s => read (Text.trim s)

/-- A setting read from a variable, or its default. -/
def setting {α : Type} (env : Environment) (read : String → Option α) (name : String)
    (fallback : α) : α :=
  (env.setting? read name).getD fallback

end Environment

namespace Reading

def port (s : String) : Option Nat := Text.natural? 65535 s

def count (s : String) : Option Nat := Text.natural? 18446744073709551615 s

def signed (s : String) : Option Int :=
  Text.integer? (-9223372036854775808) 9223372036854775807 s

def truth (s : String) : Option Bool :=
  if s = "true" then some true else if s = "false" then some false else none

end Reading

end SocketRelay
