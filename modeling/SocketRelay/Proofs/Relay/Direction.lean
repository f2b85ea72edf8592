import SocketRelay.Proofs.Relay.Standing
import SocketRelay.Proofs.Session.Vocabulary

/-!
# Where traffic goes

Every connect and every datagram is made for one request of one client, and goes where that request
says: to the session's resolver if it asks for name service, and otherwise to the four octets and
the port that it names. Nothing else may go to the port of name service. A request with any other
address makes no call at all.

Which calls a step may make is bounded by `Licensed`, without any assumption. That they come in the
right order on each real socket is `Regular`, and needs that the system opens fresh descriptors.
-/
namespace SocketRelay
open History (OpensFresh Orderly dealings)
open Protocol (Request)
open SocketRelay.Action (Ends Makes)

/-- Where a request goes: to the resolver for name service, whatever the address, and otherwise to
four octets and the port. -/
inductive Destined (resolver : Endpoint4) : Bytes → Port → Endpoint4 → Prop
  | service (address) : Destined resolver address nameServicePort resolver
  | direct (a b c d port) : port ≠ nameServicePort →
      Destined resolver [a, b, c, d] port ⟨⟨a, b, c, d⟩, port⟩

theorem resolveDestination_eq_ok {address : Bytes} {port : Port}
    {resolver destination : Endpoint4} :
    resolveDestination address port resolver = .ok destination ↔
      Destined resolver address port destination := by
  constructor
  · intro h
    unfold resolveDestination at h
    split at h
    · rename_i hport
      cases h
      exact hport ▸ .service address
    · rename_i hport
      split at h
      · rename_i octets heq
        cases h
        unfold Ipv4.ofOctets? at heq
        split at heq
        · cases heq
          exact .direct _ _ _ _ port hport
        · cases heq
      · cases h
  · intro h
    cases h with
    | service => exact if_pos rfl
    | direct a b c d port hport => exact if_neg hport

theorem Destined.eq_resolver {address : Bytes} {port : Port} {resolver destination : Endpoint4}
    (h : Destined resolver address port destination) (hp : destination.port = nameServicePort) :
    destination = resolver := by
  cases h with
  | service => rfl
  | direct a b c d port hport => exact (hport hp).elim

/-- The request names neither name service nor an address of four octets. -/
def Misaddressed : Request → Prop
  | .connect _ address port | .sendto _ address port _ =>
    port ≠ nameServicePort ∧ address.length ≠ 4
  | _ => False

theorem not_destined {address : Bytes} {port : Port} {resolver destination : Endpoint4}
    (hp : port ≠ nameServicePort) (ha : address.length ≠ 4) :
    ¬ Destined resolver address port destination := by
  intro h
  cases h with
  | service => exact hp rfl
  | direct => exact ha rfl

namespace Relay
variable {κ : Type} {r : Relay κ} {x : Input κ}

/-- The client of an open session asks for something. -/
structure Asks (r : Relay κ) (x : Input κ) (i : Nat) (s : Session) (request : Request) : Prop where
  input : ∃ bytes, x = .frame i bytes ∧ Request.decode bytes = .ok request
  session : r.sessions[i]? = some s
  opened : s.closed = false

/-- The exchanges that a step may lead to. -/
def Licensed (r : Relay κ) : Input κ → Exchange → Prop
  | .frame i bytes, e => ∃ s request, r.Asks (.frame i bytes) i s request ∧
      s.Licensed request e.call
  | .drain _, e => Serving e.call
  | .expire _ _ _, e | .leave _ _, e => Releasing e.call
  | .poll, e => Reactor.Polling e
  | .enter _, _ | .elapse _ _, _ => False

theorem serve_makes {i : Nat} {operation : Session → Action κ Session.Reply}
    {P : Session → Call → Prop} (h : ∀ s, (operation s).Makes (P s)) (r : Relay κ) :
    ∃ calls, (r.serve i operation).1.world.history = calls ++ r.world.history ∧
      ∀ e ∈ calls, ∃ s, r.sessions[i]? = some s ∧ P s e.call := by
  cases hs : r.sessions[i]? with
  | none =>
    unfold serve
    rw [hs]
    exact ⟨[], rfl, nofun⟩
  | some s =>
    obtain ⟨calls, hc, hp⟩ := h s r.world
    rw [serve_of_session hs]
    exact ⟨calls, hc, fun e he => ⟨s, rfl, hp e he⟩⟩

variable [OperatingSystem κ]

theorem step_licensed (r : Relay κ) (x : Input κ) :
    ∃ calls, (r.step x).1.world.history = calls ++ r.world.history ∧
      ∀ e ∈ calls, r.Licensed x e := by
  cases x with
  | enter settings => exact ⟨[], rfl, nofun⟩
  | elapse system now => exact ⟨[], rfl, nofun⟩
  | frame i bytes =>
    obtain ⟨calls, hc, hp⟩ := serve_makes (i := i) (fun s => s.makes_onMessage bytes) r
    refine ⟨calls, hc, fun e he => ?_⟩
    obtain ⟨s, hs, hopen, request, hdecode, hlicensed⟩ := hp e he
    exact ⟨s, request, ⟨⟨bytes, rfl, hdecode⟩, hs, hopen⟩, hlicensed⟩
  | drain i =>
    obtain ⟨calls, hc, hp⟩ := serve_makes (i := i)
      (fun s => s.makes_drainMailbox.bind fun drained => .pure drained.1) r
    exact ⟨calls, hc, fun e he => (hp e he).choose_spec.2⟩
  | expire i now order =>
    obtain ⟨calls, hc, hp⟩ := serve_makes (i := i)
      (fun s => (s.makes_expireStalledConnects now order).bind fun expired => .pure expired.1) r
    exact ⟨calls, hc, fun e he => (hp e he).choose_spec.2⟩
  | leave i order =>
    obtain ⟨calls, hc, hp⟩ := serve_makes (i := i) (fun s => s.makes_close order) r
    exact ⟨calls, hc, fun e he => (hp e he).choose_spec.2⟩
  | poll =>
    rcases Reactor.pollOnce_ends (w := r.world) with ⟨e, hm⟩ | ⟨reports, w₁, hm, hd⟩
    · exact ⟨_, hm.history, List.forall_mem_singleton.2 (.waited _ _)⟩
    · obtain ⟨calls, hc, hpolling⟩ := hd.round hm
      exact ⟨calls, hc, hpolling⟩

theorem step_dispatched {i : Nat} {s : Session} {bytes : Bytes} {request : Request}
    (hs : r.sessions[i]? = some s) (hopen : s.closed = false)
    (hdecode : Request.decode bytes = .ok request) : (r.step (.frame i bytes)).1 =
      r.put i (s.dispatch request r.world).1.session (s.dispatch request r.world).2 := by
  change (r.serve i fun s => s.onMessage bytes).1 = _
  rw [serve_of_session hs]
  unfold Session.onMessage
  rw [hopen, hdecode]
  rfl

def exchanges (r : Relay κ) (x : Input κ) : List Exchange :=
  Session.exchangesSince r.world (r.step x).1.world

theorem exchanges_eq {calls : List Exchange}
    (h : (r.step x).1.world.history = calls ++ r.world.history) : r.exchanges x = calls := by
  simp [exchanges, Session.exchangesSince, h]

theorem licensed_of_mem {e : Exchange} (he : e ∈ r.exchanges x) : r.Licensed x e := by
  obtain ⟨calls, hc, hp⟩ := r.step_licensed x
  rw [exchanges_eq hc] at he
  exact hp e he

omit [OperatingSystem κ] in
theorem asked_of_licensed {e : Exchange} (h : r.Licensed x e)
    (hw : ¬ Serving e.call) (hp : ¬ Reactor.Polling e) :
    ∃ i s request, r.Asks x i s request ∧ s.Licensed request e.call := by
  cases x with
  | frame i bytes =>
    obtain ⟨s, request, ha, hl⟩ := h
    exact ⟨i, s, request, ha, hl⟩
  | drain i => exact (hw h).elim
  | expire i now | leave i => exact (hw (.released h)).elim
  | poll => exact (hp h).elim
  | enter | elapse => exact h.elim

/-- A connect is made for a request to connect a stream without a descriptor. -/
theorem asked_of_connect {d : Descriptor} {destination : Endpoint4} {answer : Except Errno Unit}
    (he : ⟨.connect d destination, answer⟩ ∈ r.exchanges x) :
    ∃ i s k v address port, r.Asks x i s (.connect k address port) ∧ s.sockets.get? k = some v ∧
      v.kind = .tcp ∧ v.descriptor = none ∧
      Destined s.settings.resolver address port destination := by
  have hserving : ¬ Serving (.connect d destination) := by
    rintro (_ | _ | ⟨⟨⟩⟩ | ⟨⟨⟩⟩)
  obtain ⟨i, s, request, ha, hl⟩ := asked_of_licensed (licensed_of_mem he) hserving nofun
  cases hl with
  | connected hr hv hk hd =>
    exact ⟨i, s, _, _, _, _, ha, hv, hk, hd, resolveDestination_eq_ok.1 hr⟩
  | released hc | written hc => cases hc
  | acquired ht hr hv hc =>
    cases hc with
    | released hc => cases hc

/-- A datagram is sent for a request to send it, from a datagram socket. -/
theorem asked_of_sendTo {d : Descriptor} {data : Bytes} {destination : Endpoint4}
    {answer : Except Errno Nat} (he : ⟨.sendTo d data destination, answer⟩ ∈ r.exchanges x) :
    ∃ i s k v address port, r.Asks x i s (.sendto k address port data) ∧
      s.sockets.get? k = some v ∧ v.kind = .udp ∧
      Destined s.settings.resolver address port destination := by
  have hserving : ¬ Serving (.sendTo d data destination) := by
    rintro (_ | _ | ⟨⟨⟩⟩ | ⟨⟨⟩⟩)
  obtain ⟨i, s, request, ha, hl⟩ := asked_of_licensed (licensed_of_mem he) hserving nofun
  cases hl with
  | posted hr hv hk => exact ⟨i, s, _, _, _, _, ha, hv, hk, resolveDestination_eq_ok.1 hr⟩
  | released hc | written hc => cases hc
  | acquired ht hr hv hc =>
    cases hc with
    | released hc => cases hc

/-- A descriptor is bound for a request to connect or to send a datagram, to the port recorded. -/
theorem asked_of_bindAny {d : Descriptor} {port : Port} {answer : Except Errno Unit}
    (he : ⟨.bindAny d port, answer⟩ ∈ r.exchanges x) :
    ∃ i s request v, r.Asks x i s request ∧ s.sockets.get? request.socketId = some v ∧
      port = v.localPort.getD 0 := by
  have hserving : ¬ Serving (.bindAny d port) := by
    rintro (_ | _ | ⟨⟨⟩⟩ | ⟨⟨⟩⟩)
  obtain ⟨i, s, request, ha, hl⟩ := asked_of_licensed (licensed_of_mem he) hserving nofun
  cases hl with
  | released hc | written hc => cases hc
  | acquired ht hr hv hc =>
    cases hc with
    | bound => exact ⟨i, s, request, _, ha, hv, rfl⟩
    | released hc => cases hc

theorem exchanges_of_misaddressed {i : Nat} {bytes : Bytes} {request : Request}
    (hdecode : Request.decode bytes = .ok request) (hm : Misaddressed request) :
    r.exchanges (.frame i bytes) = [] := by
  have hnone : ∀ {address port}, request.target? = some (address, port) →
      ∀ {resolver destination}, resolveDestination address port resolver ≠ .ok destination := by
    intro address port ht resolver destination hr
    have hdestined := resolveDestination_eq_ok.1 hr
    cases request with
    | connect | sendto =>
      cases ht
      exact not_destined hm.1 hm.2 hdestined
    | socket | socketClose | bind | send => exact hm
  refine List.eq_nil_iff_forall_not_mem.2 fun e he => ?_
  obtain ⟨s, asked, ⟨⟨frame, hx, hframe⟩, -, -⟩, hl⟩ := licensed_of_mem he
  cases hx
  cases hdecode.symm.trans hframe
  generalize e.call = call at hl
  cases hl with
  | released | written => exact hm
  | acquired ht hr => exact hnone ht hr
  | connected hr | posted hr => exact hnone rfl hr

theorem posted_of_sendto {i : Nat} {s : Session} {k : SocketId} {address : Bytes} {port : Port}
    {data : Bytes} (ha : r.Asks x i s (.sendto k address port data)) (hk : s.sockets.get? k ≠ none)
    (hresult : (s.dispatch (.sendto k address port data) r.world).1.result = .ok ()) :
    ∃ destination, Destined s.settings.resolver address port destination ∧
      posted (r.exchanges x) = [(data, destination)] := by
  obtain ⟨⟨bytes, rfl, hdecode⟩, hs, hopen⟩ := ha
  have hpost : (s.dispatch (.sendto k address port data)).Ends r.world _ := s.dispatch_posts hk
  obtain ⟨calls, destination, hc, hr, hposted⟩ := hpost hresult
  refine ⟨destination, resolveDestination_eq_ok.1 hr, ?_⟩
  have hstep := congrArg (fun r : Relay κ => r.world.history) (step_dispatched hs hopen hdecode)
  rw [exchanges_eq (hstep.trans hc), hposted]

/-- A step makes its connects, datagrams and binds for a request, with the destination that the
request determines; and so far every real socket has been used in the right order. -/
structure Disciplined (r : Relay κ) (x : Input κ) : Prop where
  connects : ∀ d destination answer, ⟨.connect d destination, answer⟩ ∈ r.exchanges x →
    ∃ i s k v address port, r.Asks x i s (.connect k address port) ∧ s.sockets.get? k = some v ∧
      v.kind = .tcp ∧ v.descriptor = none ∧
      Destined s.settings.resolver address port destination ∧
      (destination.port = nameServicePort → destination = s.settings.resolver)
  posts : ∀ d data destination answer, ⟨.sendTo d data destination, answer⟩ ∈ r.exchanges x →
    ∃ i s k v address port, r.Asks x i s (.sendto k address port data) ∧
      s.sockets.get? k = some v ∧ v.kind = .udp ∧
      Destined s.settings.resolver address port destination ∧
      (destination.port = nameServicePort → destination = s.settings.resolver)
  binds : ∀ d port answer, ⟨.bindAny d port, answer⟩ ∈ r.exchanges x →
    ∃ i s request v, r.Asks x i s request ∧ s.sockets.get? request.socketId = some v ∧
      port = v.localPort.getD 0
  misaddressed : ∀ i bytes request, x = .frame i bytes → Request.decode bytes = .ok request →
    Misaddressed request → r.exchanges x = []
  posted : ∀ i s k address port data, r.Asks x i s (.sendto k address port data) →
    s.sockets.get? k ≠ none →
    (s.dispatch (.sendto k address port data) r.world).1.result = .ok () →
    ∃ destination, Destined s.settings.resolver address port destination ∧
      posted (r.exchanges x) = [(data, destination)]
  orderly : Orderly (r.step x).1.world.history
  once : ∀ d n, (dealings d n (r.step x).1.world.history).countP Exchange.connects ≤ 1
  seated : ∀ i k v, (r.step x).1.socket? i k = some v → v.Seated (r.step x).1.world.history

/-- In every run traffic goes where requests say, and every real socket is bound before it is used,
connected once at most, watched only when it is connected or about to be, and written on only when
it is connected. -/
theorem traffic_disciplined {system : κ} {maxEvents : Nat} {xs : List (Input κ)} {x : Input κ}
    (hf : OpensFresh ((start system maxEvents).run (xs ++ [x])).world.history) :
    Disciplined ((start system maxEvents).run xs) x := by
  have hregular := regular_run hf
  rw [run_append] at hregular
  refine ⟨fun d destination answer he => ?_, fun d data destination answer he => ?_,
    fun d port answer he => asked_of_bindAny he, fun i bytes request hx hdecode hm => ?_,
    fun i s k address port data ha hk hresult => posted_of_sendto ha hk hresult, hregular.orderly,
    fun d => (hregular.orderly.connects_at_most_once d).1, hregular.seated⟩
  · obtain ⟨i, s, k, v, address, port, ha, hv, hk, hd, hdest⟩ := asked_of_connect he
    exact ⟨i, s, k, v, address, port, ha, hv, hk, hd, hdest, hdest.eq_resolver⟩
  · obtain ⟨i, s, k, v, address, port, ha, hv, hk, hdest⟩ := asked_of_sendTo he
    exact ⟨i, s, k, v, address, port, ha, hv, hk, hdest, hdest.eq_resolver⟩
  · rw [hx]
    exact exchanges_of_misaddressed hdecode hm

end Relay

namespace Loopback

/-- A stream to the port of name service, whatever host is meant, goes to the resolver. -/
theorem traffic_disciplined_lookup :
    Relay.Disciplined arrived (asks (.connect 1 [1, 2] nameServicePort)) ∧
      .connect 3 ({} : Settings).resolver ∈
        (arrived.exchanges (asks (.connect 1 [1, 2] nameServicePort))).map Exchange.call :=
  ⟨Relay.traffic_disciplined (by decide +kernel), by decide +kernel⟩

end Loopback

end SocketRelay
