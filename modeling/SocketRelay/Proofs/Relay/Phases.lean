import SocketRelay.Proofs.Relay.Ownership
import SocketRelay.Proofs.Socket.Phases
import SocketRelay.Proofs.Socket.Telling
import SocketRelay.Proofs.Socket.Vocabulary

/-!
# What a readiness amounts to

A socket of a relay has a row in the reactor's table, so its registration can always be renewed.
From this it follows that a readiness with several conditions is the same as its conditions one at a
time, whatever the system answers. It also follows how it can end: nothing is left of the socket, or
its registration is armed for what the socket wants.

The system that answers may be another one than that under which the socket came to be.
-/
namespace SocketRelay
open History (OpensFresh openDescriptors watch?)
open Protocol (Event)
open SocketRelay.Action (Ends)

theorem History.watch?_modified {d : Descriptor} {bits : UInt32} {token : Token} {h : History}
    {e : Watch} (hw : watch? d (⟨.epollModify d bits token, .ok ()⟩ :: h) = some e) :
    e = ⟨bits, token, true⟩ := by
  rw [watch?, if_pos rfl] at hw
  obtain ⟨-, -, rfl⟩ := Option.map_eq_some_iff.1 hw
  rfl

theorem History.opensFresh_append {calls h : History} (hc : ∀ x ∈ calls, Serving x.call)
    (hf : OpensFresh h) : OpensFresh (calls ++ h) := by
  induction calls with
  | nil => exact hf
  | cons x calls ih =>
    obtain ⟨hx, hc⟩ := List.forall_mem_cons.1 hc
    refine ⟨?_, ih hc⟩
    obtain ⟨call, answer⟩ := x
    cases call with
    | openSocket kind =>
      cases hx with
      | written h => cases h
      | released h => cases h
    | _ => rfl

namespace VirtualSocket
variable {κ : Type}

/-- The socket has ended, and nothing is left of what it held. -/
structure Vanished (d : Descriptor) (v : VirtualSocket) (w : World κ) : Prop where
  closed : v.closed
  unregistered : w.reactor.table.get? d = none
  released : d ∉ openDescriptors w.history
  unwatched : watch? d w.history = none

/-- The socket is open, and the system will report what it wants to hear of. -/
structure Attentive (d : Descriptor) (v : VirtualSocket) (w : World κ) : Prop where
  live : v.live? = some d
  armed : ∃ registration, w.reactor.table.get? d = some registration ∧
    registration.interest = v.interest ∧
    watch? d w.history = some ⟨v.interest.toEpoll, registration.token, true⟩

end VirtualSocket

namespace Relay
open VirtualSocket (Vanished Attentive Placed placed_of_row)
variable {κ κ' : Type} {r : Relay κ} {i : Nat} {s : Session} {k : SocketId} {v : VirtualSocket}
variable {d : Descriptor} {ready : Interest}

def under (r : Relay κ) (system : κ') : Relay κ' where
  world := r.world.under system
  sessions := r.sessions

/-- The system does not matter for who owns what. -/
theorem Owned.under (h : r.Owned) (system : κ') : (r.under system).Owned :=
  ⟨h.formed, h.sound, h.matched⟩

/-- A readiness ends with the socket gone, or with its registration armed. -/
theorem Owned.handled [OperatingSystem κ] (h : r.Owned) (hf : OpensFresh r.world.history)
    (hs : r.sessions[i]? = some s) (hv : s.sockets.get? k = some v) (hd : v.live? = some d) :
    (v.handleReady s.context ready).Ends r.world fun x w' =>
      Vanished d x.1 w' ∨ Attentive d x.1 w' := by
  have hik : r.socket? i k = some v := (socket?_of_session hs k).trans hv
  obtain ⟨token, interest, before, -, -, hrow, -⟩ := h.row hik (VirtualSocket.live?_eq_some.1 hd).2
  refine ((VirtualSocket.handleReady_conduct s.context False hd False.elim).and
    ((VirtualSocket.handleReady_placed (placed_of_row hd hrow)).and
      ((v.makes_handleReady s.context ready).ends r.world))).mono ?_
  rintro ⟨v', events⟩ w' ⟨⟨hc, hend⟩, hplaced, calls, hcalls, hserving⟩
  dsimp only at hc hend hplaced ⊢
  have hf' : OpensFresh w'.history := hcalls ▸ History.opensFresh_append hserving hf
  have howned := h.conduct hs hv hc hf'
  generalize hreactor : w'.reactor = after at hplaced
  cases hplaced with
  | ended hclosed =>
    have hnone : w'.reactor.table.get? d = none := by
      rw [hreactor]
      exact Table.get?_erase_self ..
    have hopen : d ∉ openDescriptors w'.history := fun ho => howned.matched.opened d ho hnone
    refine .inl ⟨hclosed, hnone, hopen, Decidable.not_not.1 fun hw => ?_⟩
    exact hopen (howned.matched.watched d hw)
  | held interest hlive hinterest =>
    obtain rfl := hinterest trivial
    have hrow' : w'.reactor.table.get? d = some ⟨token, k, v'.interest, i⟩ := by
      rw [hreactor]
      exact Table.get?_insert_self ..
    obtain ⟨-, -, armed, hwatch⟩ := howned.matched.listed d _ hrow'
    change watch? d w'.history = _ at hwatch
    have hopen : ¬ v'.closed := fun hclosed =>
      nomatch (VirtualSocket.live?_of_closed hclosed).symm.trans hlive
    obtain ⟨w₁, e, registration, -, hlast, -, hm⟩ := hend.resolve_left hopen
    cases hlive.symm.trans hlast
    have hentry := History.watch?_modified (hm.history ▸ hwatch)
    obtain ⟨-, -, rfl⟩ := Watch.mk.inj hentry
    exact .inr ⟨hlive, _, hrow', rfl, hwatch⟩

/-- What the conditions of a readiness do together is what they do one by one, and what comes of
it. -/
structure Decomposes (r : Relay κ) (ctx : SocketContext) (v : VirtualSocket) (ready : Interest) :
    Prop where
  /-- With the same answers: the same socket, the same events in the same order, the same reactor,
  and the same questions for errors, sends and reads. -/
  parts : ∀ answers : Answers,
    (v.handleReady ctx ready).Ends (r.world.under answers) fun whole w =>
      (v.handleEach ctx ready).Ends (r.world.under answers) fun each w' =>
        whole = each ∧ w.reactor = w'.reactor ∧
          History.conveyed w.history = History.conveyed w'.history
  /-- A condition that comes after the end is passed over. -/
  inert : ∀ {κ' : Type} [OperatingSystem κ'] (u : VirtualSocket) (bit : Interest), u.closed →
    u.handleReady (κ := κ') ctx bit = pure (u, [])
  /-- At most the outcome of a connect, then data, then the end. -/
  told : ∀ {κ' : Type} [OperatingSystem κ'] (system : κ'),
    (v.handleReady ctx ready).Ends (r.world.under system) fun x _ =>
      ∃ success data, x.2.Sublist [.connected v.id success, .recv v.id data, .closed v.id]
  /-- The socket is gone with all that it held, or it listens again. -/
  ended : ∀ {κ' : Type} [OperatingSystem κ'] (system : κ') (d : Descriptor), v.live? = some d →
    (v.handleReady ctx ready).Ends (r.world.under system) fun x w =>
      Vanished d x.1 w ∨ Attentive d x.1 w
  bare : v.live? = none → ∀ {κ' : Type} [OperatingSystem κ'],
    v.handleReady (κ := κ') ctx ready = pure (v, [])

theorem Owned.decomposes (h : r.Owned) (hf : OpensFresh r.world.history)
    (hs : r.sessions[i]? = some s) (hv : s.sockets.get? k = some v)
    (hready : ready.isEmpty = false) : r.Decomposes s.context v ready where
  parts answers := by
    cases hd : v.live? with
    | none =>
      rw [VirtualSocket.handleReady_of_live?_eq_none _ hd,
        VirtualSocket.handleEach_of_live?_eq_none hd]
      exact ⟨rfl, rfl, rfl⟩
    | some d =>
      obtain ⟨token, interest, before, -, -, hrow, -⟩ :=
        h.row ((socket?_of_session hs k).trans hv) (VirtualSocket.live?_eq_some.1 hd).2
      have hplaced := placed_of_row hd hrow
      have halike : (v.handleReady s.context ready).Alike (v.handleEach s.context ready)
          (r.world.under answers) (r.world.under answers) :=
        VirtualSocket.handleReady_alike (.refl _) hplaced hplaced
      have hwhole : (v.handleReady s.context ready).Ends (r.world.under answers) fun x w =>
          Placed r.world.reactor d ⟨token, k, interest, i⟩ True x.1 w.reactor :=
        VirtualSocket.handleReady_placed hplaced
      have heach : (v.handleEach s.context ready).Ends (r.world.under answers) fun x w =>
          Placed r.world.reactor d ⟨token, k, interest, i⟩ True x.1 w.reactor :=
        VirtualSocket.handleEach_placed hready hplaced
      refine ⟨halike.result, ?_, halike.level.conveyed.symm⟩
      rw [Ends, halike.result] at hwhole
      exact hwhole.unique heach
  inert u bit hu := VirtualSocket.handleReady_of_live?_eq_none _ (VirtualSocket.live?_of_closed hu)
  told system := VirtualSocket.handleReady_tells
  ended system d hd := (h.under system).handled hf hs hv hd
  bare hd := VirtualSocket.handleReady_of_live?_eq_none _ hd

/-- Handling a readiness decomposes into its conditions, for every socket that a run can reach. -/
theorem readiness_decomposed {system : κ} [OperatingSystem κ] {maxEvents : Nat}
    {xs : List (Input κ)} (hf : OpensFresh ((start system maxEvents).run xs).world.history)
    (hs : ((start system maxEvents).run xs).sessions[i]? = some s)
    (hv : s.sockets.get? k = some v) (hready : ready.isEmpty = false) :
    ((start system maxEvents).run xs).Decomposes s.context v ready :=
  (owned_run hf).decomposes hf hs hv hready

end Relay

namespace Loopback
open Relay (Input)

/-- A client's stream is being connected. -/
def connectPending : List (Input Network) :=
  arrival ++ [asks (.connect 1 [127, 0, 0, 1] 23911)]

/-- The peer is there, has written two bytes, and takes what it is sent. -/
def allGranted : Answers where
  answer _ c :=
    match c with
    | .takeError _ => .ok none
    | .recv _ _ => .ok [104, 105]
    | .send _ data | .sendTo _ data _ => .ok data.length
    | .openSocket _ | .localPort _ => .error Errno.invalid
    | .close _ => ()
    | .epollWait _ => .ok []
    | .setReuseAddress _ | .bindAny _ _ | .connect _ _ | .epollCreate | .epollAdd _ _ _
    | .epollModify _ _ _ | .epollRemove _ => .ok ()
  arms _ _ _ _ := rfl

/-- The connect succeeds, then there are data, then the peer has hung up. -/
theorem readiness_decomposed_connectPending : ∃ s v,
    ((Relay.start listening 8).run connectPending).sessions[0]? = some s ∧
    s.sockets.get? 1 = some v ∧ v.isConnecting ∧
    OpensFresh ((Relay.start listening 8).run connectPending).world.history ∧
    ((Relay.start listening 8).run connectPending).Decomposes s.context v
      { read := true, write := true, hangup := true } ∧
    (v.handleReady s.context { read := true, write := true, hangup := true }
      (((Relay.start listening 8).run connectPending).world.under allGranted)).1.2 =
      [.connected 1 true, .recv 1 [104, 105], .closed 1] := by
  have hsocket : (((Relay.start listening 8).run connectPending).sessions[0]?.bind fun s =>
      (s.sockets.get? 1).map fun v => (v.isConnecting,
        (v.handleReady s.context { read := true, write := true, hangup := true }
          (((Relay.start listening 8).run connectPending).world.under allGranted)).1.2)) =
      some (true, [.connected 1 true, .recv 1 [104, 105], .closed 1]) := by
    decide +kernel
  obtain ⟨s, hs, hv⟩ := Option.bind_eq_some_iff.1 hsocket
  obtain ⟨v, hv, hfacts⟩ := Option.map_eq_some_iff.1 hv
  obtain ⟨hconnecting, hevents⟩ := Prod.mk.inj hfacts
  have hfresh : OpensFresh ((Relay.start listening 8).run connectPending).world.history := by
    decide +kernel
  exact ⟨s, v, hs, hv, hconnecting, hfresh, Relay.readiness_decomposed hfresh hs hv rfl, hevents⟩

end Loopback

end SocketRelay
