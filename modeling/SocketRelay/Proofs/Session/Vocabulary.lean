import SocketRelay.Proofs.Session.Operation
import SocketRelay.Proofs.Socket.Vocabulary

/-!
# Which calls a session makes

A request is carried out in the vocabulary of its operation, and only for a socket that the session
has. Draining serves readinesses; expiry and closing only give up what there is.
-/
namespace SocketRelay
open Protocol (Request)
open SocketRelay.Action (Ends Makes)

def Protocol.Request.target? : Request → Option (Bytes × Port)
  | .connect _ address port | .sendto _ address port _ => some (address, port)
  | _ => none

namespace Session
variable {κ : Type} (s : Session)

/-- The calls that a request may lead to. A descriptor is opened only for a socket of the session
and with a destination; a connect is for a stream that has no descriptor, a datagram for a datagram
socket. -/
inductive Licensed : Request → Call → Prop
  | released {k c} : Releasing c → Licensed (.socketClose k) c
  | written {k data c} : Writing c → Licensed (.send k data) c
  | acquired {request address port destination v c} : request.target? = some (address, port) →
      resolveDestination address port s.settings.resolver = .ok destination →
      s.sockets.get? request.socketId = some v → Acquiring v.kind (v.localPort.getD 0) c →
      Licensed request c
  | connected {k address port destination v d} :
      resolveDestination address port s.settings.resolver = .ok destination →
      s.sockets.get? k = some v → v.kind = .tcp → v.descriptor = none →
      Licensed (.connect k address port) (.connect d destination)
  | posted {k address port data destination v d} :
      resolveDestination address port s.settings.resolver = .ok destination →
      s.sockets.get? k = some v → v.kind = .udp →
      Licensed (.sendto k address port data) (.sendTo d data destination)

theorem makes_withSocket (k : SocketId)
    {operation : VirtualSocket → Action κ VirtualSocket.Outcome} {P : VirtualSocket → Call → Prop}
    (h : ∀ v, (operation v).Makes (P v)) :
    (s.withSocket k operation).Makes fun c => ∃ v, s.sockets.get? k = some v ∧ P v c := by
  unfold withSocket
  split
  · exact .pure _
  · rename_i v hv
    exact ((h v).mono fun c hc => ⟨v, hv, hc⟩).bind fun _ => .pure _

variable [OperatingSystem κ]

theorem makes_closeSocket (k : SocketId) : Makes (κ := κ) (s.closeSocket k) Releasing := by
  unfold closeSocket
  split
  · exact .pure _
  · exact (VirtualSocket.makes_close _).bind fun _ => .pure _

theorem makes_carryOut (request : Request) :
    Makes (κ := κ) (s.carryOut request) (s.Licensed request) := by
  cases request with
  | socket k kind => exact .pure _
  | socketClose k => exact (s.makes_closeSocket k).mono fun _ => .released
  | bind k port => exact .pure _
  | connect k address port =>
    refine (s.makes_withSocket k fun v => v.makes_connect s.context address port).mono ?_
    rintro c ⟨v, hv, hk, hd, destination, hr, hc | ⟨d, rfl⟩⟩
    · exact .acquired rfl hr hv hc
    · exact .connected hr hv hk hd
  | send k data =>
    refine (s.makes_withSocket k fun v => v.makes_send s.context data).mono ?_
    rintro c ⟨v, hv, hc⟩
    exact .written hc
  | sendto k address port data =>
    refine (s.makes_withSocket k fun v => v.makes_sendto s.context address port data).mono ?_
    rintro c ⟨v, hv, hk, destination, hr, hc | ⟨d, rfl⟩⟩
    · exact .acquired rfl hr hv hc
    · exact .posted hr hv hk

theorem makes_dispatch (request : Request) :
    Makes (κ := κ) (s.dispatch request) (s.Licensed request) :=
  (s.makes_carryOut request).bind fun _ => .pure _

theorem makes_onMessage (frame : Bytes) : Makes (κ := κ) (s.onMessage frame) fun c =>
    s.closed = false ∧ ∃ request, Request.decode frame = .ok request ∧ s.Licensed request c := by
  unfold onMessage
  split
  · exact .pure _
  rename_i hc
  split
  · exact .pure _
  rename_i request hdecode
  refine ((s.makes_dispatch request).mono fun c hlicensed => ?_).bind fun _ => .pure _
  exact ⟨Bool.eq_false_iff.2 hc, request, hdecode, hlicensed⟩

theorem makes_onReady (note : Readiness) : Makes (κ := κ) (s.onReady note) Serving := by
  unfold onReady
  split
  · exact .pure _
  split
  · exact .pure _
  · split
    · exact (VirtualSocket.makes_handleReady _ _ _).bind fun _ => .pure _
    · exact .pure _

theorem makes_drainUpTo (n : Nat) : Makes (κ := κ) (s.drainUpTo n) Serving := by
  have htake : ∀ id, Makes (κ := κ) (takeNote id) Serving := by
    refine fun id => .silent fun w => ?_
    rw [takeNote_eq]
    split <;> rfl
  induction n generalizing s with
  | zero => exact .pure _
  | succ n ih =>
    unfold drainUpTo
    refine (htake s.mailbox).bind fun taken => ?_
    cases taken with
    | none => exact .pure _
    | some note =>
      exact (s.makes_onReady note).bind fun first => (ih first.session).bind fun _ => .pure _

theorem makes_drainMailbox : Makes (κ := κ) s.drainMailbox Serving :=
  Makes.get.bind fun _ => s.makes_drainUpTo _

theorem makes_expireAll (now timeout : Nat) (rows : List (SocketId × VirtualSocket)) :
    Makes (κ := κ) (expireAll now timeout rows s) Releasing := by
  induction rows generalizing s with
  | nil => exact .pure _
  | cons row rows ih =>
    unfold expireAll
    exact (row.2.makes_expireConnect now timeout).bind fun _ => (ih _).bind fun _ => .pure _

theorem makes_expireStalledConnects (now : Nat) (order : SocketOrder) :
    Makes (κ := κ) (s.expireStalledConnects now order) Releasing := by
  unfold expireStalledConnects
  split
  · exact .pure _
  · refine (s.makes_expireAll now _ _).bind fun after => ?_
    dsimp only
    split
    · exact .pure _
    · exact .pure _

theorem makes_closeAll (sockets : List VirtualSocket) :
    Makes (κ := κ) (closeAll sockets) Releasing := by
  induction sockets with
  | nil => exact .pure _
  | cons v sockets ih =>
    unfold closeAll
    exact v.makes_close.bind fun _ => ih

theorem makes_close (order : SocketOrder) : Makes (κ := κ) (s.close order) Releasing := by
  have hdiscard : Makes (κ := κ) s.discardNotes Releasing := .silent fun _ => rfl
  unfold close
  split
  · exact .pure _
  · exact (makes_closeAll _).bind fun _ => hdiscard.bind fun _ => .pure _

/-- A datagram that a session sends without complaint is sent once, and it is the one asked for. -/
theorem dispatch_posts {w : World κ} {k : SocketId} {address : Bytes} {port : Port} {data : Bytes}
    (hk : s.sockets.get? k ≠ none) :
    (s.dispatch (.sendto k address port data)).Ends w fun done w' => done.result = .ok () →
      ∃ calls destination, w'.history = calls ++ w.history ∧
        resolveDestination address port s.settings.resolver = .ok destination ∧
        posted calls = [(data, destination)] := by
  refine Ends.bind (withSocket_ends fun v _ => VirtualSocket.sendto_posts v s.context) ?_
  intro done w' hafter
  rcases hafter with ⟨hn, -⟩ | ⟨v, o, -, hpost, rfl⟩
  · exact (hk hn).elim
  · exact Ends.pure hpost

end Session

end SocketRelay
