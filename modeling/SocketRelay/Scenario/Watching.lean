import SocketRelay.Scenario.Stage

/-!
# Scenarios of a reactor alone

Local pairs stand for the sockets of a relay: one end of each is watched, the other sends, closes or
lets what it gets lie. A pair goes by a name, and so does its watched descriptor, also after the
descriptor was closed or taken over by a fresh pair.
-/
namespace SocketRelay.Scenario.Watching
open Loopback

/-- A descriptor: that of a named pair, or a number. -/
inductive Target where
  | named (pair : String)
  | number (descriptor : Descriptor)

structure Fixture where
  descriptor : Descriptor
  file : FileId
  /-- The file of the pair that a fresh one has replaced. -/
  replaced : Option FileId := none

abbrev Fixtures := Table String Fixture

inductive Step where
  | openPair (pair : String) (kind : PairKind)
  | register (target : Target) (socket : SocketId) (interest : Interest) (mailbox : MailboxId)
  | setInterest (target : Target) (interest : Interest)
  | unregister (target : Target)
  | isRegistered (target : Target)
  | poll
  | plan (fault : Fault)
  /-- Take up to a number of notes from a mailbox, or all. -/
  | take (mailbox : MailboxId) (most : Option Nat)
  | inspect (mailbox : MailboxId)
  /-- The other end sends. -/
  | peerSend (pair : String) (data : Bytes)
  /-- The watched end sends. -/
  | send (pair : String) (data : Bytes)
  /-- The watched end reads. -/
  | receive (pair : String)
  | peerClose (pair : String)
  | close (pair : String)
  /-- A fresh pair takes over the descriptor. -/
  | replace (pair : String) (kind : PairKind)
  /-- The other end of the replaced pair sends. -/
  | replacedPeerSend (pair : String) (data : Bytes)

inductive Answer where
  | nothing
  | truth (value : Bool)
  | count (n : Nat)
  | token (token : Token) (target : Descriptor)
  | result (result : Except RelayError Unit)
  /-- Notes with the names of the pairs that they concern. -/
  | notes (notes : List (Readiness × Option String))
  | mailbox (mailbox : Mailbox)
  | bytes (data : Option Bytes)

open Play

def fixture (pair : String) : Play Fixtures Fixture := do
  present (.pair pair) ((← own).get? pair)

def descriptor : Target → Play Fixtures Descriptor
  | .named pair => return (← fixture pair).descriptor
  | .number d => return d

/-- The name of the pair with a descriptor. -/
def nameOf? (fixtures : Fixtures) (d : Descriptor) : Option String :=
  (fixtures.rows.find? fun row => row.2.descriptor = d).map Prod.fst

def change (step : Network → Network) : Play Fixtures Answer := do
  setNetwork (step (← network))
  return .truth true

def takeNotes (mailbox : MailboxId) : Nat → Action Network (List Readiness)
  | 0 => return []
  | most + 1 => do
    match ← takeNote mailbox with
    | some r => return r :: (← takeNotes mailbox most)
    | none => return []

def Step.play : Step → Play Fixtures Answer
  | openPair pair kind => do
    let d ← onNetwork (·.openPair kind)
    let file ← present (.pair pair) ((← network).file? d)
    setOwn ((← own).insert pair { descriptor := d, file })
    return .nothing
  | register target socket interest mailbox => do
    let d ← descriptor target
    match ← act (Reactor.register d socket mailbox interest) with
    | .ok token => return .token token d
    | .error e => return .result (.error e)
  | setInterest target interest => do
    return .result (← act (Reactor.setInterest (← descriptor target) interest))
  | unregister target => do return .result (← act (Reactor.unregister (← descriptor target)))
  | isRegistered target => do
    return .truth ((← get).world.reactor.table.contains (← descriptor target))
  | poll => do
    match ← act Reactor.pollOnce with
    | .ok n => return .count n
    | .error e => return .result (.error e)
  | plan fault => do
    setNetwork ((← network).addFault fault)
    return .nothing
  | take mailbox most => do
    let waiting := ((← get).world.mailbox mailbox).queue.length
    let notes ← act (takeNotes mailbox (most.getD waiting))
    let fixtures ← own
    return .notes (notes.map fun r => (r, nameOf? fixtures r.token.descriptor))
  | inspect mailbox => return .mailbox ((← get).world.mailbox mailbox)
  | peerSend pair data => do
    let f ← fixture pair
    change (·.pairArrive f.file data)
  | send pair data => do
    let f ← fixture pair
    change (·.pairWrite f.file data)
  | receive pair => do
    let f ← fixture pair
    return .bytes (← onNetwork (·.pairRead f.descriptor))
  | peerClose pair => do
    let f ← fixture pair
    let _ ← change (·.pairPeerClose f.file)
    return .nothing
  | close pair => do
    let f ← fixture pair
    act (perform (.close f.descriptor))
    return .nothing
  | replace pair kind => do
    let f ← fixture pair
    setNetwork ((← network).replacePair f.descriptor kind)
    let file ← present (.pair pair) ((← network).file? f.descriptor)
    setOwn ((← own).insert pair { f with file, replaced := some f.file })
    return .nothing
  | replacedPeerSend pair data => do
    let f ← fixture pair
    let file ← present (.replacedPair pair) f.replaced
    change (·.pairArrive file data)

/-- What a step shows, with the number of registrations after it. -/
structure Report where
  answer : Answer
  registered : Nat

def report (step : Step) : Play Fixtures Report := do
  let answer ← step.play
  return { answer, registered := ← registered }

/-- Run a scenario: mailboxes of the given capacities, then the steps. -/
def run (setup : Setup) (maxEvents : Nat) (capacities : List Nat) (steps : List Step) :
    Except Halt (List Report) := do
  let stage ← setup.stage maxEvents capacities Table.empty
  return (← (steps.mapM report).run stage).1

end SocketRelay.Scenario.Watching
