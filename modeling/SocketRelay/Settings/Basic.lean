import SocketRelay.Settings.Environment

/-!
# Settings

The knobs of a relay with their defaults, their variables, the conditions under which a relay can
run, and the summary that is logged at the start. All times are whole milliseconds.

`Settings.check` finds the first knob that may not be zero but is; the order is that of the fields
it names.
-/
namespace SocketRelay

structure Settings where
  /-- Where clients connect. -/
  listen : Endpoint := .v4 ⟨Ipv4.unspecified, 5000⟩
  /-- The most sockets that one session may hold. -/
  maxSockets : Nat := 4
  /-- The longest wait of one poll, in milliseconds. -/
  pollInterval : Nat := 500
  /-- The most bytes taken from a socket at one readiness. -/
  recvBuffer : Nat := 2048
  /-- Where traffic to port 53 goes. -/
  resolver : Endpoint4 := ⟨⟨8, 8, 8, 8⟩, 53⟩
  /-- The most bytes that a socket may hold unsent. -/
  sendQueueLimit : Nat := 256 * 1024
  /-- The age in milliseconds at which a pending connect fails; without one connects wait on. -/
  connectTimeout : Option Nat := none
  /-- The most readiness notes that may wait for one session. -/
  mailboxCapacity : Nat := 256
  /-- The most readiness notes taken in one poll. -/
  maxEvents : Nat := 256
  deriving DecidableEq, Repr

inductive PositiveKnob where
  | maxSockets | pollInterval | recvBuffer | mailboxCapacity | maxEvents
  deriving DecidableEq, Repr

namespace PositiveKnob

def name : PositiveKnob → String
  | maxSockets => "max_sockets"
  | pollInterval => "poll_interval"
  | recvBuffer => "recv_buffer_size"
  | mailboxCapacity => "mailbox_capacity"
  | maxEvents => "max_events"

/-- The value that settings give to the knob. -/
def value (s : Settings) : PositiveKnob → Nat
  | maxSockets => s.maxSockets
  | pollInterval => s.pollInterval
  | recvBuffer => s.recvBuffer
  | mailboxCapacity => s.mailboxCapacity
  | maxEvents => s.maxEvents

/-- The complaint about a knob that is zero. -/
def complaint (k : PositiveKnob) : String := "invalid config: " ++ k.name ++ " must be > 0"

end PositiveKnob

/-- A span of milliseconds in the largest unit that leaves no fraction below a millisecond. -/
def spanText (ms : Nat) : String :=
  if ms = 0 then "0ns"
  else if ms < 1000 then toString ms ++ "ms"
  else
    let part := ms % 1000
    let digits := [part / 100, part / 10 % 10, part % 10]
    let kept := (digits.reverse.dropWhile (· = 0)).reverse
    let fraction := if kept.isEmpty then "" else "." ++ String.join (kept.map toString)
    toString (ms / 1000) ++ fraction ++ "s"

namespace Settings

/-- Settings from the environment, defaults where it has nothing usable. A connect timeout of zero
means none. -/
def ofEnvironment (env : Environment) : Settings :=
  let base : Settings := {}
  let timeout := env.setting Reading.count "RELAY_CONNECT_TIMEOUT_MS" 0
  { listen := env.setting Endpoint.ofText? "RELAY_LISTEN_ADDR" base.listen
    maxSockets := env.setting Reading.count "RELAY_MAX_SOCKETS" base.maxSockets
    pollInterval := env.setting Reading.count "RELAY_POLL_INTERVAL_MS" base.pollInterval
    recvBuffer := env.setting Reading.count "RELAY_RECV_BUFFER" base.recvBuffer
    resolver := env.setting Endpoint4.ofText? "RELAY_DNS_RESOLVER" base.resolver
    sendQueueLimit := env.setting Reading.count "RELAY_SEND_QUEUE_LIMIT" base.sendQueueLimit
    connectTimeout := if timeout = 0 then none else some timeout
    mailboxCapacity := env.setting Reading.count "RELAY_MAILBOX_CAPACITY" base.mailboxCapacity
    maxEvents := env.setting Reading.count "RELAY_MAX_EVENTS" base.maxEvents }

/-- The same settings with another port to listen on. -/
def withListenPort (s : Settings) (port : Port) : Settings :=
  { s with listen := s.listen.withPort port }

/-- The first knob that is zero and may not be. -/
def check (s : Settings) : Option PositiveKnob :=
  [.maxSockets, .pollInterval, .recvBuffer, .mailboxCapacity, .maxEvents].find?
    fun k => PositiveKnob.value s k = 0

/-- Names and texts of the effective settings, in the order in which they are logged. -/
def summary (s : Settings) : List (String × String) :=
  [("listen", s.listen.text),
    ("max_sockets", toString s.maxSockets),
    ("poll_interval", spanText s.pollInterval),
    ("recv_buffer", toString s.recvBuffer),
    ("dns_resolver", s.resolver.text),
    ("send_queue_limit", toString s.sendQueueLimit),
    ("connect_timeout", (s.connectTimeout.map fun ms => "Some(" ++ spanText ms ++ ")").getD "None"),
    ("mailbox_capacity", toString s.mailboxCapacity),
    ("max_events", toString s.maxEvents)]

end Settings

end SocketRelay
