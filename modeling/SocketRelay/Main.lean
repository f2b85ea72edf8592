import SocketRelay.Settings.Startup

/-!
# The command line

`relay [port]` reads its settings from the environment, lets the argument override the port to
listen on, and checks them. Bad arguments and bad settings end it with a log record and an exit
code; otherwise it logs the settings it found. Serving clients needs sockets and is not done here.
-/
namespace SocketRelay

def variableNames : List String :=
  ["RELAY_LISTEN_ADDR", "RELAY_MAX_SOCKETS", "RELAY_POLL_INTERVAL_MS", "RELAY_RECV_BUFFER",
    "RELAY_DNS_RESOLVER", "RELAY_SEND_QUEUE_LIMIT", "RELAY_CONNECT_TIMEOUT_MS",
    "RELAY_MAILBOX_CAPACITY", "RELAY_MAX_EVENTS", "RELAY_LOG"]

def processEnvironment : IO Environment := do
  let values ← variableNames.mapM fun name => return (name, ← IO.getEnv name)
  return values.filterMap fun (name, value) => value.map fun s => (name, Bytes.ofText s)

def summaryRecord (s : Settings) : LogRecord :=
  { level := .info, message := "relay configuration", fields := s.summary }

/-- Start up, and say on the error stream how that went. -/
def startUp (arguments : List String) : IO UInt32 := do
  let env ← processEnvironment
  match startup arguments env fun _ => none with
  | .error failure =>
    if let some record := failure.shownRecord? env then
      IO.eprintln ("ERROR relay: " ++ record.text)
    return failure.exitCode.toUInt32
  | .ok settings =>
    let record := summaryRecord settings
    if (LogFilter.ofEnvironment env).any fun filter => filter.shows record then
      IO.eprintln (" INFO relay: " ++ record.text)
    return 0

end SocketRelay

def main (arguments : List String) : IO UInt32 := SocketRelay.startUp arguments
