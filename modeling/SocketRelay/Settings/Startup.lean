import SocketRelay.Log.Filter
import SocketRelay.Settings.Basic

/-!
# Starting up

What the program does before it serves: it reads the log filter and the settings from the
environment, lets a port argument override the port to listen on, checks the settings and tries to
listen. Each failure has an exit code, and all but one have a log record. A filter that cannot be
cut into its parts ends the program at once; a bad argument is reported before bad settings, and
those before an address that cannot be listened on.
-/
namespace SocketRelay

inductive StartupFailure where
  | brokenFilter
  | badPort (argument : String)
  | badSettings (knob : PositiveKnob)
  | cannotListen (address : Endpoint) (reason : String)
  deriving DecidableEq, Repr

namespace StartupFailure

def exitCode : StartupFailure → UInt8
  | brokenFilter => 101
  | badPort _ => 2
  | badSettings _ => 2
  | cannotListen _ _ => 1

/-- The log record. Without a filter there is nothing to write one with. -/
def record? : StartupFailure → Option LogRecord
  | brokenFilter => none
  | badPort argument => some {
      level := .error
      message := "port argument must be a number in 0..=65535"
      fields := [("arg", argument)] }
  | badSettings knob => some {
      level := .error
      message := "invalid configuration"
      fields := [("error", knob.complaint)] }
  | cannotListen address reason => some {
      level := .error
      message := "bind failed"
      fields := [("addr", address.text), ("error", reason)] }

/-- The record as far as the filter of the environment shows it. -/
def shownRecord? (failure : StartupFailure) (env : Environment) : Option LogRecord :=
  (LogFilter.ofEnvironment env).bind fun filter => failure.record?.filter filter.shows

end StartupFailure

/-- The reason given when another listener holds the address. -/
def addressTaken : String := "Address already in use (os error 98)"

/-- The reason given when the address belongs to no interface of this machine. -/
def addressForeign : String := "Cannot assign requested address (os error 99)"

/-- The settings to serve with. `listenError` says why an address cannot be listened on. -/
def startup (arguments : List String) (env : Environment) (listenError : Endpoint → Option String) :
    Except StartupFailure Settings := do
  if (LogFilter.ofEnvironment env).isNone then .error .brokenFilter
  let base := Settings.ofEnvironment env
  let settings ← match arguments with
    | [] => .ok base
    | argument :: _ =>
      match Reading.port argument with
      | some port => .ok (base.withListenPort (UInt16.ofNat port))
      | none => .error (.badPort argument)
  match settings.check with
  | some knob => .error (.badSettings knob)
  | none =>
    match listenError settings.listen with
    | some reason => .error (.cannotListen settings.listen reason)
    | none => .ok settings

end SocketRelay
