import SocketRelay.Error
import SocketRelay.Log.Record

/-!
# Notices

What a session notes down about its work. The protocol has no error reply, so a request that is
refused shows up here and nowhere else; its category decides the level and the wording.
-/
namespace SocketRelay

inductive Notice where
  | opened
  | closed
  /-- A frame that is no request. -/
  | malformed (cause : Protocol.WireError)
  /-- A request that was not carried out. -/
  | refused (cause : RelayError)
  | allocated
  | bound
  /-- A request to close a socket that is not there. -/
  | closeOfUnknown
  /-- Any other request that names a socket that is not there. -/
  | unknownSocket
  /-- An event too long to be written. -/
  | unwritable (cause : Protocol.WireError)
  deriving DecidableEq, Repr

namespace Notice

def level : Notice → Verbosity
  | opened | closed | allocated | bound => .info
  | malformed _ | unwritable _ => .warn
  | refused cause =>
    match cause.category with
    | .protocol | .usage | .resourceLimit => .warn
    | .io => .info
  | closeOfUnknown | unknownSocket => .debug

def summary : Notice → String
  | opened => "session opened"
  | closed => "session closed"
  | malformed _ => "dropping malformed request"
  | refused cause =>
    match cause.category with
    | .protocol | .usage => "request rejected"
    | .resourceLimit => "request over limit"
    | .io => "request failed"
  | allocated => "socket allocated"
  | bound => "socket bound"
  | closeOfUnknown => "close of unknown socket"
  | unknownSocket => "unknown socket"
  | unwritable _ => "event encode failed"

def cause? : Notice → Option String
  | malformed cause | unwritable cause => some cause.message
  | refused cause => some cause.message
  | _ => none

def text (n : Notice) : String :=
  let line := n.level.name.map Char.toUpper ++ " " ++ n.summary
  match n.cause? with
  | some cause => line ++ ": " ++ cause
  | none => line

end Notice

end SocketRelay
