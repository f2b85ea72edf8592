import SocketRelay.Address.Endpoint
import SocketRelay.Address.Ipv4
import SocketRelay.Address.Ipv6
import SocketRelay.Binary64
import SocketRelay.Bson.Document
import SocketRelay.Bson.Element
import SocketRelay.Bson.Extended
import SocketRelay.Bson.Layout
import SocketRelay.Bson.Value
import SocketRelay.Bytes.Word
import SocketRelay.Error
import SocketRelay.Log.Directive
import SocketRelay.Log.Filter
import SocketRelay.Log.Record
import SocketRelay.Loopback.Fault
import SocketRelay.Loopback.Kernel
import SocketRelay.Loopback.Network
import SocketRelay.Loopback.Peer
import SocketRelay.Main
import SocketRelay.Pattern.Basic
import SocketRelay.Pattern.Bracket
import SocketRelay.Pattern.Escape
import SocketRelay.Pattern.Modes
import SocketRelay.Proofs.Action
import SocketRelay.Proofs.Answers
import SocketRelay.Proofs.Arming
import SocketRelay.Proofs.Binary64
import SocketRelay.Proofs.Bson.Reading
import SocketRelay.Proofs.History
import SocketRelay.Proofs.Numbering
import SocketRelay.Proofs.Protocol.Argument
import SocketRelay.Proofs.Protocol.Directions
import SocketRelay.Proofs.Protocol.Exactness
import SocketRelay.Proofs.Protocol.Framing
import SocketRelay.Proofs.Protocol.Grammar
import SocketRelay.Proofs.Protocol.Message
import SocketRelay.Proofs.Reactor.Distribution
import SocketRelay.Proofs.Reactor.Generations
import SocketRelay.Proofs.Reactor.Listing
import SocketRelay.Proofs.Registration
import SocketRelay.Proofs.Relay.Anchoring
import SocketRelay.Proofs.Relay.Arrival
import SocketRelay.Proofs.Relay.Basic
import SocketRelay.Proofs.Relay.Delivery
import SocketRelay.Proofs.Relay.Direction
import SocketRelay.Proofs.Relay.Echo
import SocketRelay.Proofs.Relay.Enrolment
import SocketRelay.Proofs.Relay.Expiry
import SocketRelay.Proofs.Relay.Inbound
import SocketRelay.Proofs.Relay.Incarnation
import SocketRelay.Proofs.Relay.Inert
import SocketRelay.Proofs.Relay.Isolation
import SocketRelay.Proofs.Relay.Lifecycle
import SocketRelay.Proofs.Relay.Mirror
import SocketRelay.Proofs.Relay.OneShot
import SocketRelay.Proofs.Relay.Ownership
import SocketRelay.Proofs.Relay.Phases
import SocketRelay.Proofs.Relay.Possession
import SocketRelay.Proofs.Relay.Readiness
import SocketRelay.Proofs.Relay.Refusal
import SocketRelay.Proofs.Relay.Separation
import SocketRelay.Proofs.Relay.Sharing
import SocketRelay.Proofs.Relay.Standing
import SocketRelay.Proofs.Relay.Step
import SocketRelay.Proofs.Relay.Story
import SocketRelay.Proofs.Relay.Stream
import SocketRelay.Proofs.Relay.Wakeup
import SocketRelay.Proofs.Session.Allocation
import SocketRelay.Proofs.Session.Concern
import SocketRelay.Proofs.Session.Course
import SocketRelay.Proofs.Session.Expiry
import SocketRelay.Proofs.Session.Operation
import SocketRelay.Proofs.Session.Output
import SocketRelay.Proofs.Session.Rest
import SocketRelay.Proofs.Session.Vocabulary
import SocketRelay.Proofs.Socket.Arming
import SocketRelay.Proofs.Socket.Dealings
import SocketRelay.Proofs.Socket.Deed
import SocketRelay.Proofs.Socket.Enrolment
import SocketRelay.Proofs.Socket.Failing
import SocketRelay.Proofs.Socket.Flushing
import SocketRelay.Proofs.Socket.Lifecycle
import SocketRelay.Proofs.Socket.Opening
import SocketRelay.Proofs.Socket.Operation
import SocketRelay.Proofs.Socket.Phases
import SocketRelay.Proofs.Socket.Placing
import SocketRelay.Proofs.Socket.Reading
import SocketRelay.Proofs.Socket.Refusal
import SocketRelay.Proofs.Socket.Settling
import SocketRelay.Proofs.Socket.Sound
import SocketRelay.Proofs.Socket.Standing
import SocketRelay.Proofs.Socket.Story
import SocketRelay.Proofs.Socket.Stream
import SocketRelay.Proofs.Socket.Telling
import SocketRelay.Proofs.Socket.Vocabulary
import SocketRelay.Proofs.Standing
import SocketRelay.Proofs.Table
import SocketRelay.Protocol.Argument
import SocketRelay.Protocol.Error
import SocketRelay.Protocol.Event
import SocketRelay.Protocol.Request
import SocketRelay.Reactor.Basic
import SocketRelay.Reactor.Interest
import SocketRelay.Reactor.Mailbox
import SocketRelay.Reactor.Token
import SocketRelay.Scenario.Sessions
import SocketRelay.Scenario.Sockets
import SocketRelay.Scenario.Stage
import SocketRelay.Scenario.Watching
import SocketRelay.Session.Basic
import SocketRelay.Session.Notice
import SocketRelay.Settings.Basic
import SocketRelay.Settings.Environment
import SocketRelay.Settings.Startup
import SocketRelay.Socket.Destination
import SocketRelay.Socket.Kind
import SocketRelay.Socket.Virtual
import SocketRelay.System.Call
import SocketRelay.System.Errno
import SocketRelay.System.World
import SocketRelay.Table
import SocketRelay.Text.Alphanumeric
import SocketRelay.Text.Base64
import SocketRelay.Text.Blank
import SocketRelay.Text.Numeral
import SocketRelay.Text.Offset
