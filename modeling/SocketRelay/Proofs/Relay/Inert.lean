import SocketRelay.Proofs.Relay.Anchoring
import SocketRelay.Proofs.Session.Rest

/-!
# Closed sessions are inert

A session may be called in more ways than by its client's frames: it can be given a request, shown a
note, or let go of. Whatever is done, the rows of the reactor's table that are for a session are
anchored by its sockets. A closed session has no sockets, so it has no rows either, and none of its
operations does anything.

One thing has to be kept from it. A request that is given to the session directly is carried out
without asking whether the session is closed; so a request for a new socket revives a closed
session, and what that socket then registers outlives the session, since letting go of it does not
close it a second time.

Nothing is assumed about the system, and nothing about how the other sessions are called.
-/
namespace SocketRelay
open Protocol (Request)
open SocketRelay.Action (Ends)

namespace Relay
variable {κ : Type}

/-- What can be done with a relay. Besides its inputs a session can be given a request that came in
no frame, be shown a note that was in no mailbox, and be let go of. -/
inductive Use (κ : Type) where
  | input (x : Input κ)
  | dispatch (session : Nat) (request : Request)
  | notify (session : Nat) (note : Readiness)
  | release (session : Nat) (order : SocketOrder)

def Use.session? : Use κ → Option Nat
  | .input x => x.session?
  | .dispatch i _ | .notify i _ | .release i _ => some i

/-- A request for a socket is given to the session directly and granted, though it is closed. -/
def revives (r : Relay κ) (i : Nat) : Use κ → Bool
  | .dispatch j (.socket k kind) =>
    j = i && (r.sessions[i]?).any fun s => s.closed && (s.openSocket k kind).result.isOk
  | _ => false

section
variable [OperatingSystem κ]

/-- What a use leaves, with the frames that the session concerned writes. The events of a request
that came in no frame are handed back and not written. -/
def use (r : Relay κ) : Use κ → Relay κ × List Outgoing
  | .input x => r.step x
  | .dispatch i request => r.serve i fun s => do
    let done ← s.dispatch request
    return { session := done.session, notices := done.notices }
  | .notify i note => r.serve i fun s => s.onReady note
  | .release i order => r.serve i fun s => s.release order

def uses (r : Relay κ) : List (Use κ) → Relay κ
  | [] => r
  | u :: us => (r.use u).1.uses us

/-- None of these uses revives the session. -/
def unrevived (i : Nat) (r : Relay κ) : List (Use κ) → Bool
  | [] => true
  | u :: us => !r.revives i u && unrevived i (r.use u).1 us

end

section
variable {r r' : Relay κ} {i j : Nat} {s s' : Session} {k : SocketId} {v v' : VirtualSocket}
variable {w' : World κ}

/-- The rows for the session are anchored, and it has no socket once it is closed. -/
structure Governed (r : Relay κ) (i : Nat) : Prop where
  allOpen : r.AllOpen
  anchored : r.Anchored i
  formed : ∀ s, r.sessions[i]? = some s → Formed i s

theorem Governed.put (h : r.Governed i) (hs : r.sessions[j]? = some s)
    (hb : (r.put j s' w').Anchored i) (ho : s'.AllOpen) (hf : j = i → Formed i s') :
    (r.put j s' w').Governed i := by
  refine ⟨h.allOpen.put hs ho, hb, fun u hu => ?_⟩
  rw [sessions_put hs] at hu
  split at hu
  · rename_i hij
    cases hu
    exact hf hij.symm
  · exact h.formed u hu

theorem Governed.course (h : r.Governed i) {settled : Prop} {l : Log} (hs : r.sessions[j]? = some s)
    (hc : Session.Course settled s r.world l s' w') (ho : s'.AllOpen) :
    (r.put j s' w').Governed i := by
  refine h.put hs (h.anchored.course hs hc) ho fun hji => ?_
  cases hji
  exact (h.formed s hs).course hc

/-- A socket is added to a session, which is open if it is the one in question. -/
theorem Governed.added (h : r.Governed i) (hs : r.sessions[j]? = some s)
    (hk : s.sockets.get? k = none) (hz : s.sockets.size < s.settings.maxSockets)
    (hc : j = i → s.closed = false) (kind : SocketKind) :
    (r.put j (s.store k { id := k, kind }) r.world).Governed i := by
  refine h.put hs (h.anchored.added hs hk kind) (Session.allOpen_store (h.allOpen j s hs))
    fun hji => ?_
  cases hji
  exact (h.formed s hs).added (hc rfl) hz hk

/-- It is enough to look at the operation that the session performs. -/
theorem Governed.serve (h : r.Governed i) {operation : Session → Action κ Session.Reply}
    (hop : ∀ s, r.sessions[j]? = some s → (operation s).Ends r.world fun reply w' =>
      (r.put j reply.session w').Governed i) : (r.serve j operation).1.Governed i := by
  unfold Relay.serve
  cases hs : r.sessions[j]? with
  | none => exact h
  | some s => exact hop s hs

theorem Governed.emptied (h : r.Governed i) (hs : r.sessions[j]? = some s)
    (he : j = i → s.sockets = Table.empty) (hw : w'.reactor = r.world.reactor) :
    (r.put j { s with sockets := Table.empty } w').Governed i := by
  refine h.put hs
    (h.anchored.quiet ?_ (addressed_put h.anchored.addressed hs rfl) hw fun d hown => ?_)
    nofun fun hji => ?_
  · refine h.anchored.sound.of_subset fun m k u hu => ?_
    rw [socket?_put hs] at hu
    split at hu
    · cases hu
    · exact hu
  · obtain ⟨k, u, hu, hd⟩ := hown
    refine ⟨k, u, ?_, hd⟩
    rw [socket?_put hs]
    split
    · rename_i hij
      cases hij
      rw [socket?_of_session hs, he rfl] at hu
      cases hu
    · exact hu
  · cases hji
    exact ⟨(h.formed s hs).mailbox, (h.formed s hs).writer, fun _ => rfl, Nat.zero_le _⟩

theorem governed_start (system : κ) (maxEvents : Nat) (i : Nat) :
    (start system maxEvents).Governed i := by
  refine ⟨allOpen_start system maxEvents, ⟨allSound_start system maxEvents, nofun, nofun⟩, nofun⟩

variable [OperatingSystem κ]

theorem Governed.turn (h : r.Governed i) {settled : Prop} {x : Input κ} {l : Log}
    {frames : List Outgoing} (ht : Turn settled r x l frames r') : r'.Governed i := by
  have hallOpen := ht.allOpen h.allOpen
  have hanchored := h.anchored.turn ht
  cases ht with
  | served j hx hs hc ho => exact h.course hs hc ho
  | opened j k kind hx hs hc hz hk hs' =>
    rw [hs']
    exact h.added hs hk hz (fun _ => hc) kind
  | entered settings =>
    refine ⟨hallOpen, hanchored, fun s hs => ?_⟩
    rw [sessions_enter] at hs
    split at hs
    · rename_i hlast
      cases hs
      exact hlast ▸ formed_newcomer r settings
    · exact h.formed s hs
  | absent | unpolled | polled | elapsed => exact ⟨hallOpen, hanchored, h.formed⟩

/-- A request that came in no frame. -/
theorem Governed.dispatch (h : r.Governed i) {request : Request}
    (hr : r.revives i (.dispatch j request) = false) :
    (r.use (.dispatch j request)).1.Governed i := by
  refine h.serve fun s hs => ?_
  have ho : s.AllOpen := h.allOpen j s hs
  by_cases hrequest : ∃ k kind, request = .socket k kind
  · obtain ⟨k, kind, rfl⟩ := hrequest
    change (r.put j (s.openSocket k kind).session.reap r.world).Governed i
    rcases Session.openSocket_session (s := s) k kind with hsame | ⟨hok, hk, hz, transport, hadded⟩
    · rw [hsame, ho.reap_eq, put_same hs]
      exact h
    · rw [hadded, (Session.allOpen_store ho).reap_eq]
      refine h.added hs hk hz (fun hji => ?_) transport
      cases hji
      simpa [revives, hs, hok, Except.isOk, Except.toBool] using hr
  · refine Ends.bind (Session.dispatch_ends False
      (fun k kind hk => (hrequest ⟨k, kind, hk⟩).elim) ho) fun done w' hafter => Ends.pure ?_
    obtain ⟨⟨l, calls, hfollows⟩ | ⟨k, kind, hgrants, -⟩, ho'⟩ := hafter
    · exact h.course hs hfollows.course ho'
    · obtain ⟨code, hsocket, -⟩ := hgrants.asked
      exact (hrequest ⟨k, code, hsocket⟩).elim

theorem Governed.notify (h : r.Governed i) (note : Readiness) :
    (r.use (.notify j note)).1.Governed i := by
  refine h.serve fun s hs => (s.onReady_conducts note r.world).mono fun reply w' hready => ?_
  rcases hready with ⟨hsame, rfl⟩ | ⟨v, t, v', hhandler, hc, hacted⟩
  · rw [hsame, put_same hs]
    exact h
  · have hv := (Session.handler?_eq_some hhandler).2.1
    rw [hacted]
    have hput : (r.put j (s.store note.socket v') w').sessions[j]? =
        some (s.store note.socket v') := by
      rw [sessions_put hs, if_pos rfl]
    have hanchored := (h.anchored.conduct hs hv hc).forgot hput
      (p := fun _ u => !u.closed) fun _ u _ hu => by simpa using hu
    rw [put_put] at hanchored
    refine h.put hs hanchored (Session.allOpen_reap _) fun hji => ?_
    cases hji
    exact ((h.formed s hs).store hv).forgot _

/-- Letting go of a session. If it was closed already, what its sockets hold is given back only. -/
theorem Governed.release (h : r.Governed i) (order : SocketOrder) :
    (r.use (.release j order)).1.Governed i := by
  refine h.serve fun s hs => ?_
  unfold Session.release
  refine Ends.bind (Session.close_runs False (h.allOpen j s hs)) fun reply w₁ hclose => ?_
  obtain ⟨l, hruns, -, -, hclosed⟩ := hclose
  have hput : (r.put j reply.session w₁).sessions[j]? = some reply.session := by
    rw [sessions_put hs, if_pos rfl]
  have hgoverned : (r.put j reply.session w₁).Governed i := h.course hs hruns.course hruns.allOpen
  refine Ends.bind (Session.giveBack_ends _ w₁) fun _ w' hw => Ends.pure ?_
  have hempty : j = i → reply.session.sockets = Table.empty := by
    intro hji
    cases hji
    exact (hgoverned.formed _ hput).closed hclosed
  have hemptied : ((r.put j reply.session w₁).put j _ w').Governed i :=
    hgoverned.emptied hput hempty hw
  rwa [put_put] at hemptied

theorem Governed.use (h : r.Governed i) {u : Use κ} (hr : r.revives i u = false) :
    (r.use u).1.Governed i := by
  cases u with
  | input x =>
    obtain ⟨l, ht⟩ := step_turn False h.allOpen x False.elim
    exact h.turn ht
  | dispatch j request => exact h.dispatch hr
  | notify j note => exact h.notify note
  | release j order => exact h.release order

theorem Governed.uses (h : r.Governed i) {us : List (Use κ)} (hr : r.unrevived i us) :
    (r.uses us).Governed i := by
  induction us generalizing r with
  | nil => exact h
  | cons u us ih =>
    simp only [unrevived, Bool.and_eq_true, Bool.not_eq_true'] at hr
    exact ih (h.use hr.1) hr.2

/-- Nothing happened to the sessions, to the table or in the system, and nothing was written. -/
structure Still (r : Relay κ) (after : Relay κ × List Outgoing) : Prop where
  sessions : after.1.sessions = r.sessions
  history : after.1.world.history = r.world.history
  reactor : after.1.world.reactor = r.world.reactor
  frames : after.2 = []

/-- The session is closed, has no socket and no row, and none of its operations does anything. -/
structure Inert (r : Relay κ) (i : Nat) : Prop where
  shut : ∃ s, r.sessions[i]? = some s ∧ s.closed ∧ s.sockets = Table.empty
  unlisted : ∀ d registration, r.world.reactor.table.get? d = some registration →
    registration.mailbox ≠ i
  idle : ∀ u, u.session? = some i → r.revives i u = false → Still r (r.use u)

omit [OperatingSystem κ] in
theorem still_of_rests {operation : Session → Action κ Session.Reply} (hs : r.sessions[i]? = some s)
    (h : (operation s).Ends r.world (s.Rests r.world)) : Still r (r.serve i operation) := by
  rw [serve_of_session hs]
  refine ⟨?_, h.history, h.reactor, congrArg s.outgoing h.frames⟩
  rw [h.session, put_same hs]

/-- A closed session without sockets does nothing, unless it is revived. -/
theorem still_of_closed {u : Use κ} (hs : r.sessions[i]? = some s) (hc : s.closed)
    (he : s.sockets = Table.empty) (hu : u.session? = some i) (hr : r.revives i u = false) :
    Still r (r.use u) := by
  cases u with
  | input x =>
    cases x with
    | frame j bytes =>
      cases hu
      exact still_of_rests hs (Session.onMessage_rests hc bytes)
    | drain j =>
      cases hu
      change Still r (r.serve i fun s => do return (← s.drainMailbox).1)
      refine still_of_rests hs (Ends.bind (p := fun result w' => s.Rests r.world result.1 w') ?_
        fun _ _ h => Ends.pure h)
      exact Ends.read (Session.drainUpTo_rests hc _)
    | expire j now order =>
      cases hu
      change Still r (r.serve i fun s => do return (← s.expireStalledConnects now order).1)
      refine still_of_rests hs ?_
      exact Ends.bind (Session.expireStalledConnects_rests he now order) fun _ _ h => Ends.pure h
    | leave j order =>
      cases hu
      exact still_of_rests hs (Session.close_rests hc order)
    | enter settings => cases hu
    | poll => cases hu
    | elapse system now => cases hu
  | dispatch j request =>
    cases hu
    change Still r (r.serve i fun s => do
      let done ← s.dispatch request
      return { session := done.session, notices := done.notices })
    refine still_of_rests hs ?_
    refine Ends.bind (Session.dispatch_rests he fun k kind hrequest hok => ?_)
      fun done w' h => Ends.pure ⟨h.1, rfl, h.2.1, h.2.2⟩
    subst hrequest
    simp [revives, hs, hc, hok, Except.isOk, Except.toBool] at hr
  | notify j note =>
    cases hu
    exact still_of_rests hs (Session.onReady_rests hc note)
  | release j order =>
    cases hu
    change Still r (r.serve i fun s => s.release order)
    exact still_of_rests hs (Session.release_rests hc he order)

theorem session_use_of_ne {u : Use κ} (hs : r.sessions[i]? = some s) (hu : u.session? ≠ some i) :
    (r.use u).1.sessions[i]? = some s := by
  have hserve : ∀ {j} (operation : Session → Action κ Session.Reply), some j ≠ some i →
      (r.serve j operation).1.sessions[i]? = some s := by
    intro j operation hji
    have hij : i ≠ j := fun h => hji (congrArg some h.symm)
    unfold Relay.serve
    cases hj : r.sessions[j]? with
    | none => exact hs
    | some t =>
      change (r.put j _ _).sessions[i]? = _
      rw [sessions_put hj, if_neg hij, hs]
  cases u with
  | input x =>
    cases x with
    | enter settings =>
      change (r.enter settings).sessions[i]? = some s
      have hlt : i < r.sessions.length := (List.getElem?_eq_some_iff.1 hs).1
      rw [sessions_enter, if_neg (Nat.ne_of_lt hlt), hs]
    | frame j bytes => exact hserve _ hu
    | drain j => exact hserve _ hu
    | expire j now order => exact hserve _ hu
    | leave j order => exact hserve _ hu
    | poll => exact hs
    | elapse system now => exact hs
  | dispatch j request => exact hserve _ hu
  | notify j note => exact hserve _ hu
  | release j order => exact hserve _ hu

theorem Governed.inert (h : r.Governed i) (hs : r.sessions[i]? = some s) (hc : s.closed) :
    r.Inert i := by
  have he := (h.formed s hs).closed hc
  refine ⟨⟨s, hs, hc, he⟩, fun d registration hr hi => ?_, fun u => still_of_closed hs hc he⟩
  obtain ⟨k, v, hv, hd⟩ := h.anchored.rows d registration hr hi
  rw [socket?_of_session hs, he] at hv
  cases hv

/-- Once closed a session stays closed. -/
theorem Governed.closed_uses (h : r.Governed i) {us : List (Use κ)} (hr : r.unrevived i us)
    (hs : r.sessions[i]? = some s) (hc : s.closed) : (r.uses us).sessions[i]? = some s := by
  induction us generalizing r with
  | nil => exact hs
  | cons u us ih =>
    simp only [unrevived, Bool.and_eq_true, Bool.not_eq_true'] at hr
    refine ih (h.use hr.1) hr.2 ?_
    by_cases hu : u.session? = some i
    · rw [((h.inert hs hc).idle u hu hr.1).sessions, hs]
    · exact session_use_of_ne hs hu

theorem uses_append (r : Relay κ) (us vs : List (Use κ)) :
    r.uses (us ++ vs) = (r.uses us).uses vs := by
  induction us generalizing r with
  | nil => rfl
  | cons u us ih => exact ih _

theorem unrevived_append (r : Relay κ) (us vs : List (Use κ)) :
    r.unrevived i (us ++ vs) = (r.unrevived i us && (r.uses us).unrevived i vs) := by
  induction us generalizing r with
  | nil => rfl
  | cons u us ih =>
    change (!r.revives i u && unrevived i (r.use u).1 (us ++ vs)) = _
    rw [ih, ← Bool.and_assoc]
    rfl

/-- From whatever state a session is closed in and whatever is done from then on, it is inert, if it
is not revived. -/
theorem closed_inert {system : κ} {maxEvents : Nat} {us vs : List (Use κ)}
    (hr : (start system maxEvents).unrevived i (us ++ vs))
    (hs : ((start system maxEvents).uses us).sessions[i]? = some s) (hc : s.closed) :
    ((start system maxEvents).uses (us ++ vs)).Inert i := by
  rw [unrevived_append, Bool.and_eq_true] at hr
  have hgoverned := (governed_start system maxEvents i).uses hr.1
  rw [uses_append]
  exact (hgoverned.uses hr.2).inert (hgoverned.closed_uses hr.2 hs hc) hc

end

end Relay

namespace Loopback
open Relay (Use)

/-- A client comes, connects a stream and is gone. -/
def departure : List (Use Network) := (visit ++ [Relay.Input.leave 0 .ofRows]).map .input

/-- All that can still be done with its session, but for a request for a socket. -/
def afterwards : List (Use Network) :=
  [.input (asks (.socket 1 1)), .dispatch 0 (.sendto 1 [127, 0, 0, 1] 23911 [1]),
    .notify 0 ⟨1, Token.pack 3 1, { read := true }⟩, .input (.drain 0),
    .input (.expire 0 9 .ofRows), .input (.leave 0 .ofRows), .release 0 .ofRows]

/-- A request for a datagram socket and a datagram. -/
def revival : List (Use Network) :=
  [.dispatch 0 (.socket 1 1), .dispatch 0 (.sendto 1 [127, 0, 0, 1] 23911 [1])]

def afterUses (us : List (Use Network)) : Relay Network := (Relay.start listening 8).uses us

theorem closed_departure : ∃ s, (afterUses departure).sessions[0]? = some s ∧ s.closed := by
  have hclosed : ((afterUses departure).sessions[0]?).any (·.closed) := by decide +kernel
  exact (Option.any_eq_true _ _).1 hclosed

theorem closed_inert_departure :
    (Relay.start listening 8).unrevived 0 (departure ++ afterwards) ∧
      (∃ s, (afterUses departure).sessions[0]? = some s ∧ s.closed) ∧
      (afterUses (departure ++ afterwards)).Inert 0 := by
  have hr : (Relay.start listening 8).unrevived 0 (departure ++ afterwards) := by decide +kernel
  obtain ⟨s, hs, hc⟩ := closed_departure
  exact ⟨hr, ⟨s, hs, hc⟩, Relay.closed_inert hr hs hc⟩

/-- If the session is revived and let go of, a registration is left. -/
theorem closed_revived : ¬ ∀ (us vs : List (Use Network)) (s : Session),
    (afterUses us).sessions[0]? = some s → s.closed → (afterUses (us ++ vs)).Inert 0 := by
  intro h
  obtain ⟨s, hs, hc⟩ := closed_departure
  have hinert := h departure (revival ++ [.release 0 .ofRows]) s hs hc
  have hleft : ((afterUses
      (departure ++ (revival ++ [.release 0 .ofRows]))).world.reactor.table.get? 3).any
        fun registration => registration.mailbox = 0 := by
    decide +kernel
  obtain ⟨registration, hr, hi⟩ := (Option.any_eq_true _ _).1 hleft
  exact hinert.unlisted 3 registration hr (of_decide_eq_true hi)

end Loopback

end SocketRelay
