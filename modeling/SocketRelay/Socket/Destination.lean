import SocketRelay.Address.Ipv4
import SocketRelay.Error

/-!
# Destinations

Where the traffic for an address and a port really goes. Name service is redirected: port 53 means
the configured resolver, whatever the address says. Any other port needs an address of exactly four
octets.
-/
namespace SocketRelay

def nameServicePort : Port := 53

/-- The endpoint for a requested address and port. -/
def resolveDestination (address : Bytes) (port : Port) (resolver : Endpoint4) :
    Except RelayError Endpoint4 :=
  if port = nameServicePort then .ok resolver
  else
    match Ipv4.ofOctets? address with
    | some a => .ok ⟨a, port⟩
    | none => .error (.badAddress address.length)

end SocketRelay
