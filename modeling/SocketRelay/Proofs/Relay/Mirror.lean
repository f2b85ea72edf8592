import SocketRelay.Proofs.Relay.Story
import SocketRelay.Proofs.Session.Allocation

/-!
# What a client knows of its table

A client sees its own requests, as far as its session has read them, and the events that are written
to it. From these alone it can tell which of its numbers are in use and by which kind of socket: its
copy of the table agrees with the session's after every step, whatever the system answers. So no
socket goes without a word, none stays after its last word, and a request that is refused adds none.
-/
namespace SocketRelay
open Protocol (Event Request)

/-- What passes between a client and its session. -/
inductive Signal where
  /-- A request that the session has read. -/
  | asked (request : Request)
  /-- An event that was written to the client. -/
  | told (event : Event)
  /-- The session has closed. -/
  | ended

namespace Session

/-- The client's copy of a table with room for so many sockets, after one more signal. -/
def mirror (most : Nat) (known : Finset (SocketId × SocketKind)) :
    Signal → Finset (SocketId × SocketKind)
  | .asked (.socket id code) =>
    match SocketKind.ofWire? code with
    | some kind =>
      if known.card < most ∧ id ∉ known.image Prod.fst then insert (id, kind) known else known
    | none => known
  | .asked (.socketClose id) | .told (.closed id) | .told (.connected id false) =>
    known.filter fun a => a.1 ≠ id
  | .ended => ∅
  | .asked _ | .told _ => known

variable {κ : Type} {settled : Prop} {most : Nat} {known : Finset (SocketId × SocketKind)}
variable {a : SocketId × SocketKind} {s s' : Session} {w w' : World κ} {l : Log}

theorem mem_mirror_told {e : Event} :
    a ∈ mirror most known (.told e) ↔ a ∈ known ∧ ¬ (e.isFinal ∧ e.socketId = a.1) := by
  cases e with
  | recv => simp [mirror, Event.isFinal]
  | closed id => simp [mirror, Event.isFinal, Event.socketId, eq_comm]
  | connected id success =>
    cases success <;> simp [mirror, Event.isFinal, Event.socketId, eq_comm]

theorem mem_foldl_told {es : List Event} : a ∈ (es.map Signal.told).foldl (mirror most) known ↔
    a ∈ known ∧ ¬ ∃ e ∈ es, e.isFinal ∧ e.socketId = a.1 := by
  induction es generalizing known with
  | nil => simp
  | cons e es ih =>
    rw [List.map_cons, List.foldl_cons, ih, mem_mirror_told, and_assoc]
    simp

/-- The request that the session reads from a frame. -/
def requests (s : Session) (frame : Bytes) : List Signal :=
  if s.closed then []
  else
    match Request.decode frame with
    | .ok request => [.asked request]
    | .error _ => []

theorem requests_of_decode {frame : Bytes} {request : Request} (hc : s.closed = false)
    (h : Request.decode frame = .ok request) : s.requests frame = [.asked request] := by
  unfold requests
  rw [h]
  simp [hc]

/-- The copy takes up a request that can be granted. -/
theorem mirror_granted {k : SocketId} {code : Int64} {kind : SocketKind}
    (hkind : SocketKind.ofWire? code = some kind) (hz : s.sockets.size < s.settings.maxSockets)
    (hk : s.sockets.get? k = none) :
    mirror s.settings.maxSockets s.allocations (.asked (.socket k code)) =
      insert (k, kind) s.allocations := by
  have hroom : s.allocations.card < s.settings.maxSockets := by
    rw [card_allocations]
    exact hz
  simp only [mirror, hkind]
  rw [if_pos ⟨hroom, not_mem_numbers.2 hk⟩]

/-- The copy passes over a request that cannot be granted. -/
theorem mirror_refused {k : SocketId} {code : Int64}
    (h : ∀ kind, SocketKind.ofWire? code = some kind →
      ¬ (s.sockets.size < s.settings.maxSockets ∧ s.sockets.get? k = none)) :
    mirror s.settings.maxSockets s.allocations (.asked (.socket k code)) = s.allocations := by
  unfold mirror
  dsimp only
  split
  · rename_i kind hkind
    refine if_neg ?_
    rw [card_allocations, not_mem_numbers]
    exact h kind hkind
  · rfl

/-- What a course is asked for changes the copy by what its log dismisses. -/
theorem mem_mirror_requests [OperatingSystem κ] {frame : Bytes} (ho : s.AllOpen)
    (hempty : s.closed → s.sockets = Table.empty) (hc : Course settled s w l s' w')
    (hs' : s' = (s.onMessage frame w).1.session)
    (hd : ∀ k, (l.of k).dismissed → Request.decode frame = .ok (.socketClose k))
    (he : ∀ k, Request.decode frame = .ok (.socketClose k) → l.events = []) :
    a ∈ (s.requests frame).foldl (mirror s.settings.maxSockets) s.allocations ↔
      a ∈ s.allocations ∧ ¬ (l.of a.1).dismissed := by
  by_cases hclosed : s.closed
  · have hnone : a ∉ s.allocations := by
      rw [allocations, hempty hclosed]
      exact List.not_mem_nil
    simp [requests, hclosed, hnone]
  have hopen : s.closed = false := Bool.eq_false_of_not_eq_true hclosed
  cases hdecode : Request.decode frame with
  | error cause =>
    have hkept : ¬ (l.of a.1).dismissed := by
      intro hdismissed
      cases hdecode.symm.trans (hd a.1 hdismissed)
    simp [requests, hopen, hdecode, hkept]
  | ok request =>
    have hkept : (∀ k, request ≠ .socketClose k) → ¬ (l.of a.1).dismissed := by
      intro hrequest hdismissed
      cases hdecode.symm.trans (hd a.1 hdismissed)
      exact hrequest a.1 rfl
    rw [requests_of_decode hopen hdecode, List.foldl_cons, List.foldl_nil]
    cases request with
    | socket k code =>
      have hrefused : ∀ kind, SocketKind.ofWire? code = some kind →
          ¬ (s.sockets.size < s.settings.maxSockets ∧ s.sockets.get? k = none) := by
        rintro kind hkind ⟨hsize, hfree⟩
        have hgranted : s'.sockets.get? k ≠ none := by
          rw [hs']
          exact onMessage_granted hopen hdecode hkind hsize hfree
        exact hgranted (hc.absent hfree).1
      rw [mirror_refused hrefused, and_iff_left (hkept fun _ h => by cases h)]
    | socketClose k =>
      have hfreed : s'.sockets.get? k = none := by
        rw [hs']
        exact onMessage_freed hopen hdecode
      simp only [mirror, Finset.mem_filter]
      refine and_congr_right fun ha => ?_
      constructor
      · intro hne hdismissed
        cases hdecode.symm.trans (hd a.1 hdismissed)
        exact hne rfl
      · intro hundismissed heq
        have hends : ¬ (l.of a.1).Ends := by
          simp [Traffic.Ends, hundismissed, Log.events_of_wordless (he k hdecode)]
        obtain ⟨v, hv, -⟩ := hc.live_iff.2 ⟨ho.live_iff.2 ha, hends⟩
        rw [heq, hfreed] at hv
        cases hv
    | bind | connect | send | sendto => rw [and_iff_left (hkept fun _ h => by cases h)]; rfl

end Session

namespace Relay
open Session (mirror emit)
variable {κ : Type} {settled : Prop} {r : Relay κ} {i : Nat} {s s' : Session} {w' : World κ}
  {l : Log}
variable {x : Input κ}

/-- What the session at a position reads in a step. -/
def asked (r : Relay κ) (i : Nat) : Input κ → List Signal
  | .frame j bytes =>
    if j = i then
      match r.sessions[i]? with
      | some s => s.requests bytes
      | none => []
    else []
  | _ => []

/-- The end of the session at a position, if the step is that. -/
def Input.ending (i : Nat) : Input κ → List Signal
  | .leave j _ => if j = i then [.ended] else []
  | _ => []

/-- The copy that a client draws from these signals agrees with its session's table. A session that
is not there yet has an empty one. -/
structure Mirrored (r : Relay κ) (i : Nat) (log : List Signal) : Prop where
  absent : r.sessions[i]? = none → ∀ most, log.foldl (mirror most) ∅ = ∅
  present : ∀ s, r.sessions[i]? = some s →
    s.allocations = log.foldl (mirror s.settings.maxSockets) ∅

theorem mirrored_of_present {log : List Signal} (hs : r.sessions[i]? = some s)
    (h : s.allocations = log.foldl (mirror s.settings.maxSockets) ∅) : Mirrored r i log where
  absent hn := by cases hn.symm.trans hs
  present u hu := by
    cases hs.symm.trans hu
    exact h

variable [OperatingSystem κ]

/-- What passes between a session and its client in a step. -/
def signals (r : Relay κ) (i : Nat) (x : Input κ) : List Signal :=
  r.asked i x ++
    ((r.written i [x]).filterMap fun frame => (Event.decode frame).toOption).map .told ++ x.ending i

def traffic (r : Relay κ) (i : Nat) : List (Input κ) → List Signal
  | [] => []
  | x :: xs => r.signals i x ++ (r.step x).1.traffic i xs

theorem signals_of_other (hf : r.AllFormed) (h : x.session? ≠ some i) : r.signals i x = [] := by
  have hwritten : r.written i [x] = [] := by simp [written, hf.framesTo_step, h]
  unfold signals
  rw [hwritten]
  cases x with
  | frame j bytes =>
    have hj : j ≠ i := fun hj => h (congrArg some hj)
    simp [asked, Input.ending, hj]
  | leave j =>
    have hj : j ≠ i := fun hj => h (congrArg some hj)
    simp [asked, Input.ending, hj]
  | _ => rfl

theorem foldl_signals_of_absent (hf : r.AllFormed) (h : r.sessions[i]? = none) (most : Nat) :
    (r.signals i x).foldl (mirror most) ∅ = ∅ := by
  by_cases hx : x.session? = some i
  · have hwritten : r.written i [x] = [] := by
      cases x with
      | enter | poll | elapse => cases hx
      | frame | drain | expire | leave =>
        cases hx
        simp [written, step, serve, h]
    unfold signals
    rw [hwritten]
    cases x with
    | frame => simp [asked, Input.ending, h]
    | leave j => cases hx; simp [asked, Input.ending, mirror]
    | _ => rfl
  · rw [signals_of_other hf hx]
    rfl

/-- The events of a step are those of its course, as far as they fit. -/
theorem mem_foldl_written {a : SocketId × SocketKind} {most : Nat}
    {known : Finset (SocketId × SocketKind)} : a ∈
      ((((emit l.events).1.filterMap fun frame => (Event.decode frame).toOption).map
        Signal.told).foldl (mirror most) known) ↔
      a ∈ known ∧ ¬ ∃ e ∈ l.events, e.isFinal ∧ e.socketId = a.1 := by
  rw [decode_emit, Session.mem_foldl_told]
  simp only [List.mem_filter]
  refine and_congr_right fun _ => not_congr (exists_congr fun e => ?_)
  exact ⟨fun h => ⟨h.1.1, h.2⟩, fun h => ⟨⟨h.1, Event.fits_of_isFinal h.2.1⟩, h.2⟩⟩

/-- What a session is asked for in a step changes the copy by what the course dismisses. -/
theorem mem_foldl_asked {a : SocketId × SocketKind} (hs : r.sessions[i]? = some s)
    (hs' : (r.step x).1.sessions[i]? = some s') (ho : s.AllOpen) (hf : Formed i s)
    (hx : x.session? = some i) (hc : Session.Course settled s r.world l s' w')
    (hd : ∀ k, (l.of k).dismissed → x.Dismisses i k)
    (he : ∀ k, x.Dismisses i k → l.events = []) (hleave : ∀ order, x ≠ .leave i order) :
    a ∈ (r.asked i x).foldl (mirror s.settings.maxSockets) s.allocations ↔
      a ∈ s.allocations ∧ ¬ (l.of a.1).dismissed := by
  have hdismissed : (∀ k, ¬ x.Dismisses i k) → ¬ (l.of a.1).dismissed := fun hx h => hx _ (hd _ h)
  cases x with
  | enter | poll | elapse => cases hx
  | leave j order =>
    cases hx
    exact (hleave order rfl).elim
  | drain | expire =>
    rw [and_iff_left (hdismissed fun k hk => by
      obtain ⟨order, hk⟩ | ⟨bytes, hk, -⟩ := hk <;> cases hk)]
    rfl
  | frame j bytes =>
    cases hx
    have hsession : s' = (s.onMessage bytes r.world).1.session := by
      have hstep : r.step (.frame i bytes) = _ := serve_of_session hs fun s => s.onMessage bytes
      rw [hstep, sessions_put hs, if_pos rfl] at hs'
      exact (Option.some.inj hs').symm
    have hclose : ∀ k, (Input.frame i bytes : Input κ).Dismisses i k ↔
        Request.decode bytes = .ok (.socketClose k) := by
      intro k
      constructor
      · intro h
        obtain ⟨order, h⟩ | ⟨bytes', h, hdecode⟩ := h
        · cases h
        · cases h
          exact hdecode
      · exact fun h => .inr ⟨bytes, rfl, h⟩
    simp only [asked, if_true, hs]
    exact Session.mem_mirror_requests ho hf.closed hc hsession (fun k hk => (hclose k).1 (hd k hk))
      fun k hk => he k ((hclose k).2 hk)

theorem allocations_of_course (hs : r.sessions[i]? = some s)
    (hs' : (r.step x).1.sessions[i]? = some s') (ho : s.AllOpen) (ho' : s'.AllOpen)
    (hf : Formed i s)
    (hsound : r.AllSound) (hx : x.session? = some i)
    (hc : Session.Course settled s r.world l s' w')
    (hframes : (r.step x).2 = s.outgoing (emit l.events).1)
    (hd : ∀ k, (l.of k).dismissed → x.Dismisses i k)
    (he : ∀ k, x.Dismisses i k → l.events = []) (hl : ∀ order, x = .leave i order → s'.closed) :
    s'.allocations = (r.signals i x).foldl (mirror s.settings.maxSockets) s.allocations := by
  have hwritten : r.written i [x] = (emit l.events).1 := by
    rw [written, hframes, framesTo_outgoing, if_pos hf.writer, written, List.append_nil]
  unfold signals
  rw [hwritten, List.foldl_append, List.foldl_append]
  by_cases hleave : ∃ order, x = .leave i order
  · obtain ⟨order, hleave⟩ := hleave
    have hempty : s'.sockets = Table.empty := (hf.course hc).closed (hl order hleave)
    rw [hleave]
    simp only [Input.ending, if_true, List.foldl_cons, List.foldl_nil, mirror]
    rw [Session.allocations, hempty]
    rfl
  · have hleave : ∀ order, x ≠ .leave i order := fun order h => hleave ⟨order, h⟩
    have hending : x.ending i = [] := by
      cases x with
      | leave j order =>
        cases hx
        exact (hleave order rfl).elim
      | _ => rfl
    rw [hending, List.foldl_nil]
    ext ⟨k, kind⟩
    rw [mem_foldl_written, mem_foldl_asked hs hs' ho hf hx hc hd he hleave, ← ho'.live_iff,
      hc.live_iff, ho.live_iff, (hsound.course_named hs hc).ends_iff, not_or, and_assoc]

/-- A request for a socket that is granted is all that passes. -/
theorem signals_of_grant {bytes : Bytes} {request : Request} (hs : r.sessions[i]? = some s)
    (hc : s.closed = false) (hdecode : Request.decode bytes = .ok request)
    (hwrote : (r.step (.frame i bytes)).2 = []) :
    r.signals i (.frame i bytes) = [.asked request] := by
  have hwritten : r.written i [.frame i bytes] = [] := by
    rw [written, hwrote]
    rfl
  unfold signals asked
  rw [hwritten]
  simp only [if_true, hs, Session.requests_of_decode hc hdecode]
  rfl

theorem Mirrored.idle {log : List Signal} {r' : Relay κ} (h : Mirrored r i log)
    (hx : r.signals i x = []) (hs : r'.sessions[i]? = r.sessions[i]?) :
    Mirrored r' i (log ++ r.signals i x) := by
  rw [hx, List.append_nil]
  exact ⟨fun hn => h.absent (hs ▸ hn), fun s hs' => h.present s (hs ▸ hs')⟩

theorem Mirrored.step {log : List Signal} (h : Mirrored r i log) (ho : r.AllOpen)
    (hsound : r.AllSound) (hf : r.AllFormed) :
    Mirrored (r.step x).1 i (log ++ r.signals i x) := by
  obtain ⟨l, hturn⟩ := step_turn False ho x False.elim
  have ho' := hturn.allOpen ho
  generalize hafter : (r.step x).1 = r' at hturn ho' ⊢
  generalize hwrote : (r.step x).2 = frames at hturn
  cases hturn with
  | absent j hx hn =>
    by_cases hj : j = i
    · subst hj
      refine ⟨fun _ most => ?_, fun s hs => nomatch hn.symm.trans hs⟩
      rw [List.foldl_append, h.absent hn, foldl_signals_of_absent hf hn]
    · exact h.idle (signals_of_other hf fun hx' => hj (Option.some.inj (hx.symm.trans hx'))) rfl
  | @served _ s l s' w' j hx hs hc hopen hacc hd he hl =>
    by_cases hj : j = i
    · subst hj
      have hs' : (r.put j s' w').sessions[j]? = some s' := by rw [sessions_put hs, if_pos rfl]
      have hstep := allocations_of_course hs (hafter ▸ hs') (ho j s hs) hopen (hf j s hs) hsound
        hx hc hwrote hd he hl
      refine mirrored_of_present hs' ?_
      rw [hstep, List.foldl_append, congrArg Session.settings hc.fixed, h.present s hs]
    · refine h.idle (signals_of_other hf fun hx' => hj (Option.some.inj (hx.symm.trans hx'))) ?_
      rw [sessions_put hs, if_neg (Ne.symm hj)]
  | @opened _ s s' j k kind hasked hs hc hz hk hs' =>
    obtain ⟨bytes, code, rfl, hdecode, hkind⟩ := hasked
    rw [hs']
    by_cases hj : j = i
    · subst hj
      have hsignals := signals_of_grant hs hc hdecode hwrote
      have hstored : (r.put j (s.store k { id := k, kind }) r.world).sessions[j]? =
          some (s.store k { id := k, kind }) := by
        rw [sessions_put hs, if_pos rfl]
      refine mirrored_of_present hstored ?_
      rw [hsignals, List.foldl_append, List.foldl_cons, List.foldl_nil]
      change _ = mirror s.settings.maxSockets (log.foldl (mirror s.settings.maxSockets) ∅) _
      rw [← h.present s hs, Session.mirror_granted hkind hz hk]
      exact Session.allocations_store hk _
    · refine h.idle (signals_of_other hf fun hx => hj (Option.some.inj hx)) ?_
      rw [sessions_put hs, if_neg (Ne.symm hj)]
  | entered settings =>
    have hx : r.signals i (.enter settings) = [] := signals_of_other hf nofun
    by_cases hlast : i = r.sessions.length
    · have hn : r.sessions[i]? = none := List.getElem?_eq_none (Nat.le_of_eq hlast.symm)
      have hnew : (r.enter settings).sessions[i]? = some (r.newcomer settings) := by
        rw [sessions_enter, if_pos hlast]
      refine mirrored_of_present hnew ?_
      rw [hx, List.append_nil, h.absent hn]
      rfl
    · refine h.idle hx ?_
      rw [sessions_enter, if_neg hlast]
  | unpolled | polled | elapsed => exact h.idle (signals_of_other hf nofun) rfl

theorem Mirrored.run {log : List Signal} (h : Mirrored r i log) (ho : r.AllOpen)
    (hsound : r.AllSound) (hf : r.AllFormed) (xs : List (Input κ)) :
    Mirrored (r.run xs) i (log ++ r.traffic i xs) := by
  induction xs generalizing r log with
  | nil => simpa [traffic] using h
  | cons x xs ih =>
    obtain ⟨l, hturn⟩ := step_turn False ho x False.elim
    have hstep := ih (h.step ho hsound hf) (hturn.allOpen ho) (hsound.turn hturn) (hf.turn hturn)
    rwa [List.append_assoc] at hstep

/-- In every state that a relay reaches, the table of a session is what its client can tell from the
traffic between them, and has no more entries than it may. -/
theorem table_mirrored {system : κ} {maxEvents : Nat} {xs : List (Input κ)}
    (hs : ((start system maxEvents).run xs).sessions[i]? = some s) :
    s.allocations =
        ((start system maxEvents).traffic i xs).foldl (mirror s.settings.maxSockets) ∅ ∧
      s.allocations.card = s.socketCount ∧ s.socketCount ≤ s.settings.maxSockets := by
  have hopen := allOpen_start system maxEvents
  have hformed := allFormed_start system maxEvents
  have hstart : Mirrored (start system maxEvents) i [] := ⟨fun _ _ => rfl, nofun⟩
  have hend := hstart.run hopen (allSound_start system maxEvents) hformed xs
  exact ⟨hend.present s hs, s.card_allocations, (hformed.run hopen xs i s hs).size⟩

theorem table_mirrored_visit : ∃ s,
    ((start Loopback.listening 8).run Loopback.visit).sessions[0]? = some s ∧
      s.allocations = ((start Loopback.listening 8).traffic 0 Loopback.visit).foldl
        (mirror s.settings.maxSockets) ∅ ∧
      s.allocations.card = s.socketCount ∧ s.socketCount ≤ s.settings.maxSockets := by
  obtain ⟨s, hs⟩ : ∃ s, ((start Loopback.listening 8).run Loopback.visit).sessions[0]? = some s :=
    Option.isSome_iff_exists.1 (by decide +kernel)
  exact ⟨s, hs, table_mirrored hs⟩

end Relay

end SocketRelay
