import SocketRelay.Proofs.Registration
import SocketRelay.Proofs.Standing
import SocketRelay.Socket.Virtual

/-!
# What a virtual socket may do

A virtual socket acts in a fixed number of ways. `Deed` lists them: each constructor names the state
in which it is possible, the system calls made, what passes between the socket and its client, and
how the socket and the reactor are left. What the system answers is arbitrary wherever the relay
goes on in the same way. `Conduct` is a sequence of deeds in a world.

A deed leaves no intermediate state: opening a descriptor, registering it and taking it over is one
deed, and so is opening one and giving it up again. Likewise bytes leave the queue in the deed in
which the system takes them.

Two propositions stand for what an operation promises of all its deeds. Under `settled` data and the
end of a peer are reported only by sockets without a pending connect. Under `steady` the socket's
interest does not change unless its registration changes with it.
-/
namespace SocketRelay
open Protocol (Event)

/-- What passes between a socket and its client: events, bytes accepted for sending, and the wish
that the socket be closed. -/
@[ext] structure Traffic where
  events : List Event := []
  accepted : Bytes := []
  dismissed : Bool := false

namespace Traffic

instance : Append Traffic := ⟨fun a b =>
  ⟨a.events ++ b.events, a.accepted ++ b.accepted, a.dismissed || b.dismissed⟩⟩

@[simp] theorem events_append (a b : Traffic) : (a ++ b).events = a.events ++ b.events := rfl
@[simp] theorem accepted_append (a b : Traffic) : (a ++ b).accepted = a.accepted ++ b.accepted :=
  rfl

@[simp] theorem dismissed_append (a b : Traffic) :
    (a ++ b).dismissed = (a.dismissed || b.dismissed) := rfl

theorem append_assoc (a b c : Traffic) : a ++ b ++ c = a ++ (b ++ c) :=
  Traffic.ext (List.append_assoc ..) (List.append_assoc ..) (Bool.or_assoc ..)

@[simp] theorem append_nothing (a : Traffic) : a ++ ({} : Traffic) = a :=
  Traffic.ext (List.append_nil _) (List.append_nil _) (Bool.or_false _)

@[simp] theorem nothing_append (a : Traffic) : ({} : Traffic) ++ a = a := rfl

end Traffic

namespace VirtualSocket

theorem live?_eq_some {v : VirtualSocket} {d : Descriptor} :
    v.live? = some d ↔ v.closed = false ∧ v.descriptor = some d := by
  unfold live?
  cases v.closed <;> simp

/-- The socket once it is closed. -/
def shut (v : VirtualSocket) : VirtualSocket :=
  { v with
    descriptor := none, token := none, connectStarted := none, connected := false
    outbound := [], closed := true }

/-- How far the real socket has got, going by what the virtual one knows. -/
def standing (v : VirtualSocket) : Standing where
  kind := v.kind
  reusable := v.localPort.getD 0 ≠ 0
  port := some (v.localPort.getD 0)
  link :=
    match v.kind with
    | .udp => .idle
    | .tcp => if v.connectStarted = none then .connected else .pending

/-- A call that sets up a fresh descriptor, or fails to. -/
inductive Preparing (ctx : SocketContext) (v : VirtualSocket) (d : Descriptor) : Exchange → Prop
  | reuse (answer) : Preparing ctx v d ⟨.setReuseAddress d, answer⟩
  | bind (answer) : Preparing ctx v d ⟨.bindAny d (v.localPort.getD 0), answer⟩
  | connect (address port destination answer) :
      v.kind = .tcp →
      resolveDestination address port ctx.settings.resolver = .ok destination →
      Preparing ctx v d ⟨.connect d destination, answer⟩

theorem Preparing.on {ctx : SocketContext} {v : VirtualSocket} {d : Descriptor} {x : Exchange}
    (h : Preparing ctx v d x) : x.call.descriptor? = some d := by
  cases h <;> rfl

theorem Preparing.leads {ctx : SocketContext} {v : VirtualSocket} {d : Descriptor} {x : Exchange}
    {s s' : Standing} {setup : List Exchange} (h : Preparing ctx v d x)
    (hl : s.Leads d setup s') (ha : s'.admits x.call) : s.Leads d (x :: setup) (s'.after x) := by
  refine hl.call x h.on ?_ ha
  cases h <;> exact nofun

/-- An attempt to open a descriptor that leaves none: newest call first. -/
inductive Misfire (ctx : SocketContext) (v : VirtualSocket) (r : Reactor) :
    List Exchange → Reactor → Prop
  | unopened (e) : Misfire ctx v r [⟨.openSocket v.kind, .error e⟩] r
  | undone (d setup) :
      (∀ x ∈ setup, Preparing ctx v d x) → (∃ s, Standing.Leads d { kind := v.kind } setup s) →
      Misfire ctx v r (⟨.close d, ()⟩ :: setup ++ [⟨.openSocket v.kind, .ok d⟩]) r
  | unwatched (d setup bits token e) :
      (∀ x ∈ setup, Preparing ctx v d x) →
      (∃ s, Standing.Leads d { kind := v.kind } (⟨.epollAdd d bits token, .error e⟩ :: setup) s) →
      Misfire ctx v r (⟨.close d, ()⟩ :: ⟨.epollAdd d bits token, .error e⟩ ::
        setup ++ [⟨.openSocket v.kind, .ok d⟩]) r.advance

/-- The socket as it is when its descriptor gets registered, and what that tells the client. -/
inductive Begun (v : VirtualSocket) : VirtualSocket → List Event → Prop
  | datagram : v.kind = .udp → Begun v v []
  | connected : v.kind = .tcp → v.connectStarted = none →
      Begun v { v with connected := true } [.connected v.id true]
  | pending (now) : v.kind = .tcp → v.connectStarted = none →
      Begun v { v with connectStarted := some now } []

/-- A call on the socket's own descriptor that moves no data and changes nothing. -/
inductive Idle (ctx : SocketContext) (v : VirtualSocket) (d : Descriptor) : Exchange → Prop
  | error (answer) : v.connectStarted = none → Idle ctx v d ⟨.takeError d, answer⟩
  | datagram (address port destination data answer) :
      v.kind = .udp →
      resolveDestination address port ctx.settings.resolver = .ok destination →
      Idle ctx v d ⟨.sendTo d data destination, answer⟩
  | unsent (data e) : v.kind = .tcp → v.connectStarted = none →
      Idle ctx v d ⟨.send d data, .error e⟩
  | unread (e) : Idle ctx v d ⟨.recv d ctx.settings.recvBuffer, .error e⟩
  | unarmed (bits token e) : Idle ctx v d ⟨.epollModify d bits token, .error e⟩

/-- Sends of a queue, each of what the one before it left. -/
inductive Drained (d : Descriptor) (data : Bytes) : List Exchange → Bytes → Prop
  | untouched : Drained d data [] data
  | sent {calls rest} (n) : Drained d data calls rest → rest ≠ [] →
      Drained d data (⟨.send d rest, .ok n⟩ :: calls) (rest.drop n)
  | unsent {calls rest} (e) : Drained d data calls rest → rest ≠ [] →
      Drained d data (⟨.send d rest, .error e⟩ :: calls) rest

/-- Why an open socket ends, with the calls that showed it: the client wishes so, or it is told. -/
inductive Ending (ctx : SocketContext) (settled : Prop) (v : VirtualSocket) :
    List Exchange → Traffic → Prop
  | wished : Ending ctx settled v [] { dismissed := true }
  | failed : v.isConnecting ∨ v.kind = .tcp ∧ v.descriptor = none →
      Ending ctx settled v [] { events := [.connected v.id false] }
  | refused (d answer) : v.descriptor = some d → v.isConnecting →
      Ending ctx settled v [⟨.takeError d, answer⟩] { events := [.connected v.id false] }
  | gone (d) : v.descriptor = some d → (settled → v.connectStarted = none) →
      Ending ctx settled v [] { events := [.closed v.id] }
  | unflushed (d calls rest) : v.descriptor = some d → (settled → v.connectStarted = none) →
      Drained d v.outbound calls rest → v.connectStarted = none →
      Ending ctx settled v calls { events := [.closed v.id] }
  | finished (d) : v.descriptor = some d → (settled → v.connectStarted = none) → v.kind = .tcp →
      Ending ctx settled v [⟨.recv d ctx.settings.recvBuffer, .ok []⟩]
        { events := [.closed v.id] }

/-- Giving up the descriptor, if there is one: its registration goes first. -/
inductive Closing (r : Reactor) : Option Descriptor → List Exchange → Reactor → Prop
  | nothing : Closing r none [] r
  | unwatched (d) : r.table.get? d = none →
      Closing r (some d) [⟨.close d, ()⟩] (r.withTable (r.table.erase d))
  | watched (d answer) :
      Closing r (some d) [⟨.close d, ()⟩, ⟨.epollRemove d, answer⟩]
        (r.withTable (r.table.erase d))

/-- One deed: socket and reactor before, calls, traffic, socket and reactor after. -/
inductive Deed (ctx : SocketContext) (settled steady : Prop) :
    VirtualSocket → Reactor → List Exchange → Traffic → VirtualSocket → Reactor → Prop
  | bound {v r} (port) : v.descriptor = none → v.closed = false → v.localPort = none →
      Deed ctx settled steady v r [] {} { v with localPort := some port } r
  | idle {v r} (d x) : v.live? = some d → Idle ctx v d x → Deed ctx settled steady v r [x] {} v r
  | misfired {v r calls r'} : v.descriptor = none → v.closed = false →
      Misfire ctx v r calls r' → Deed ctx settled steady v r calls {} v r'
  | opened {v r b events} (d setup) :
      v.descriptor = none → v.closed = false → Begun v b events →
      (∀ x ∈ setup, Preparing ctx v d x) →
      Standing.Leads d { kind := v.kind }
        (⟨.epollAdd d b.interest.toEpoll (Token.pack d r.nextGeneration), .ok ()⟩ :: setup)
        b.standing →
      Deed ctx settled steady v r
        (⟨.epollAdd d b.interest.toEpoll (Token.pack d r.nextGeneration), .ok ()⟩ ::
          setup ++ [⟨.openSocket v.kind, .ok d⟩])
        { events }
        { b with descriptor := some d, token := some (Token.pack d r.nextGeneration) }
        (r.advance.withTable (r.table.insert d
          ⟨Token.pack d r.nextGeneration, v.id, b.interest, ctx.mailbox⟩))
  | wrote {v r} (d data n) : v.live? = some d → v.kind = .tcp → v.connectStarted = none →
      v.outbound = [] →
      Deed ctx settled steady v r [⟨.send d data, .ok n⟩] { accepted := data.take n } v r
  | queued {v r} (d rest) : v.live? = some d → v.kind = .tcp → (steady → v.outbound ≠ []) →
      v.outbound.length + rest.length ≤ ctx.settings.sendQueueLimit →
      Deed ctx settled steady v r [] { accepted := rest }
        { v with outbound := v.outbound ++ rest } r
  | queuedFirst {v r registration} (d rest) : v.live? = some d → v.kind = .tcp →
      v.outbound = [] → rest.length ≤ ctx.settings.sendQueueLimit →
      r.table.get? d = some registration →
      Deed ctx settled steady v r
        [⟨.epollModify d { v with outbound := rest }.interest.toEpoll registration.token, .ok ()⟩]
        { accepted := rest } { v with outbound := rest }
        (r.withTable (r.table.insert d
          { registration with interest := { v with outbound := rest }.interest }))
  | rearmed {v r registration} (d) : v.live? = some d → r.table.get? d = some registration →
      Deed ctx settled steady v r
        [⟨.epollModify d v.interest.toEpoll registration.token, .ok ()⟩] {} v
        (r.withTable (r.table.insert d { registration with interest := v.interest }))
  | flushed {v r calls rest} (d) : v.live? = some d → ¬ steady → Drained d v.outbound calls rest →
      v.connectStarted = none →
      Deed ctx settled steady v r calls {} { v with outbound := rest } r
  | settled {v r} (d answer) : v.live? = some d → v.isConnecting → ¬ steady →
      (∀ e, answer ≠ .ok (some e)) →
      Deed ctx settled steady v r [⟨.takeError d, answer⟩] { events := [.connected v.id true] }
        { v with connectStarted := none, connected := true } r
  | received {v r} (d data) : v.live? = some d → (settled → v.connectStarted = none) →
      (v.kind = .tcp → data ≠ []) →
      Deed ctx settled steady v r [⟨.recv d ctx.settings.recvBuffer, .ok data⟩]
        { events := [.recv v.id data] } v r
  | ended {v r lead t calls r'} : v.closed = false → Ending ctx settled v lead t →
      Closing r v.descriptor calls r' →
      Deed ctx settled steady v r (calls ++ lead) t v.shut r'

/-- A sequence of deeds in a world. -/
inductive Conduct {κ : Type} (ctx : SocketContext) (settled steady : Prop) (v : VirtualSocket)
    (w : World κ) : Traffic → VirtualSocket → World κ → Prop
  | rest : Conduct ctx settled steady v w {} v w
  | deed {t v' w' calls t' v'' r w''} : Conduct ctx settled steady v w t v' w' →
      Deed ctx settled steady v' w'.reactor calls t' v'' r → w'.Moved calls r w'' →
      Conduct ctx settled steady v w (t ++ t') v'' w''

variable {κ : Type} {ctx : SocketContext} {settled steady : Prop} {v v' v'' : VirtualSocket}
variable {w w' w'' : World κ} {t t' : Traffic}

theorem Conduct.single {calls : List Exchange} {r : Reactor}
    (h : Deed ctx settled steady v w.reactor calls t v' r) (hw : w.Moved calls r w') :
    Conduct ctx settled steady v w t v' w' := Conduct.rest.deed h hw

theorem Conduct.quietly {calls : List Exchange} {r : Reactor}
    (h : Conduct ctx settled steady v w t v' w')
    (hd : Deed ctx settled steady v' w'.reactor calls {} v'' r) (hw : w'.Moved calls r w'') :
    Conduct ctx settled steady v w t v'' w'' := by
  simpa using h.deed hd hw

theorem Conduct.trans (h : Conduct ctx settled steady v w t v' w')
    (h' : Conduct ctx settled steady v' w' t' v'' w'') :
    Conduct ctx settled steady v w (t ++ t') v'' w'' := by
  induction h' with
  | rest => simpa using h
  | deed _ hd hw ih =>
    rw [← Traffic.append_assoc]
    exact ih.deed hd hw

theorem Ending.mono {settled' : Prop} {calls : List Exchange}
    (h : Ending ctx settled v calls t) (hs : settled' → settled) :
    Ending ctx settled' v calls t := by
  cases h with
  | wished => exact .wished
  | failed hc => exact .failed hc
  | refused d answer hd hc => exact .refused d answer hd hc
  | gone d hd hc => exact .gone d hd fun h => hc (hs h)
  | unflushed d calls rest hd hc hr hn =>
    exact .unflushed d calls rest hd (fun h => hc (hs h)) hr hn
  | finished d hd hc hk => exact .finished d hd (fun h => hc (hs h)) hk

/-- A promise that was kept may be dropped. -/
theorem Deed.mono {settled' steady' : Prop} {r r' : Reactor} {calls : List Exchange}
    (h : Deed ctx settled steady v r calls t v' r') (hs : settled' → settled)
    (hq : steady' → steady) : Deed ctx settled' steady' v r calls t v' r' := by
  cases h with
  | bound port hd hv hp => exact .bound port hd hv hp
  | idle d x hd hx => exact .idle d x hd hx
  | misfired hd hv hm => exact .misfired hd hv hm
  | opened d setup hd hv hb hset hl => exact .opened d setup hd hv hb hset hl
  | wrote d data n hd hk hc ho => exact .wrote d data n hd hk hc ho
  | queued d rest hd hk ho hl => exact .queued d rest hd hk (fun h => ho (hq h)) hl
  | queuedFirst d rest hd hk ho hl hr => exact .queuedFirst d rest hd hk ho hl hr
  | rearmed d hd hr => exact .rearmed d hd hr
  | flushed d hd hn hr hc => exact .flushed d hd (fun h => hn (hq h)) hr hc
  | settled d answer hd hc hn ha => exact .settled d answer hd hc (fun h => hn (hq h)) ha
  | received d data hd hc hk => exact .received d data hd (fun h => hc (hs h)) hk
  | ended hv he hc => exact .ended hv (he.mono hs) hc

theorem Conduct.mono {settled' steady' : Prop} (h : Conduct ctx settled steady v w t v' w')
    (hs : settled' → settled) (hq : steady' → steady) :
    Conduct ctx settled' steady' v w t v' w' := by
  induction h with
  | rest => exact .rest
  | deed _ hd hw ih => exact ih.deed (hd.mono hs hq) hw

theorem Conduct.history (h : Conduct ctx settled steady v w t v' w') :
    ∃ calls, w'.history = calls ++ w.history := by
  induction h with
  | rest => exact ⟨[], rfl⟩
  | deed _ _ hw ih =>
    obtain ⟨calls, hc⟩ := ih
    exact ⟨_ ++ calls, by rw [hw.history, hc, List.append_assoc]⟩

theorem Conduct.mailboxes (h : Conduct ctx settled steady v w t v' w') :
    w'.mailboxes = w.mailboxes := by
  induction h with
  | rest => rfl
  | deed _ _ hw ih => exact hw.mailboxes.trans ih

theorem Drained.trans {d : Descriptor} {data mid rest : Bytes} {calls calls' : List Exchange}
    (h : Drained d data calls mid) (h' : Drained d mid calls' rest) :
    Drained d data (calls' ++ calls) rest := by
  induction h' with
  | untouched => exact h
  | sent n _ hne ih => exact ih.sent n hne
  | unsent e _ hne ih => exact ih.unsent e hne

theorem Deed.id_eq {r r' : Reactor} {calls : List Exchange}
    (h : Deed ctx settled steady v r calls t v' r') : v'.id = v.id := by
  cases h with
  | opened d setup _ _ hb => cases hb <;> rfl
  | _ => rfl

theorem Deed.kind_eq {r r' : Reactor} {calls : List Exchange}
    (h : Deed ctx settled steady v r calls t v' r') : v'.kind = v.kind := by
  cases h with
  | opened d setup _ _ hb => cases hb <;> rfl
  | _ => rfl

theorem Deed.open {r r' : Reactor} {calls : List Exchange}
    (h : Deed ctx settled steady v r calls t v' r') : v.closed = false := by
  cases h with
  | bound _ _ hv | misfired _ hv | opened _ _ _ hv | ended hv => exact hv
  | idle _ _ hd | wrote _ _ _ hd | queued _ _ hd | queuedFirst _ _ hd | rearmed _ hd
  | flushed _ hd | settled _ _ hd | received _ _ hd => exact (live?_eq_some.1 hd).1

/-- A deed that closes its socket is its end. -/
theorem Deed.of_closed {r r' : Reactor} {calls : List Exchange}
    (h : Deed ctx settled steady v r calls t v' r') (hv : v.closed = false) (hc : v'.closed) :
    ∃ lead more, calls = more ++ lead ∧ Ending ctx settled v lead t ∧
      Closing r v.descriptor more r' := by
  have hopen : v.closed ≠ true := by
    rw [hv]
    exact nofun
  cases h with
  | opened d setup _ _ hb => cases hb <;> exact (hopen hc).elim
  | ended _ he hcl => exact ⟨_, _, rfl, he, hcl⟩
  | _ => exact (hopen hc).elim

theorem Conduct.kind_eq (h : Conduct ctx settled steady v w t v' w') : v'.kind = v.kind := by
  induction h with
  | rest => rfl
  | deed _ hd _ ih => exact hd.kind_eq.trans ih

theorem Conduct.id_eq (h : Conduct ctx settled steady v w t v' w') : v'.id = v.id := by
  induction h with
  | rest => rfl
  | deed _ hd _ ih => exact hd.id_eq.trans ih

end VirtualSocket

end SocketRelay
