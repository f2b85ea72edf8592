import SocketRelay.Proofs.Session.Course

/-!
# Operations as courses

Every operation of a session is a course, whatever the system answers, and its frames are those of
the course's events. Between operations no closed socket is in the table.
-/
namespace SocketRelay.Session
open Protocol (Event Request)
open SocketRelay.Action (Ends)
open VirtualSocket (Conduct Rearmed)
variable {κ : Type} (settled : Prop) {s : Session} {w : World κ} {k : SocketId}

def AllOpen (s : Session) : Prop := ∀ k v, s.sockets.get? k = some v → v.closed = false

theorem allOpen_reap (s : Session) : s.reap.AllOpen := fun k v h => by
  simp only [reap, Table.get?_filter, Option.filter_eq_some_iff] at h
  simpa using h.2

theorem Act.reap (s : Session) (w : World κ) : Act settled s w [] s.reap w :=
  .forgot _ fun _ v _ h => by simpa using h

@[simp] theorem emit_append (a b : List Event) : (emit (a ++ b)).1 = (emit a).1 ++ (emit b).1 := by
  induction a with
  | nil => rfl
  | cons e a ih =>
    simp only [List.cons_append, emit]
    cases e.encode <;> simp [ih]

/-- The bytes that a request adds to the stream of a socket, as its result and the calls tell: the
whole data, what the system took, or nothing. -/
def accepted (request : Request) (result : Except RelayError Unit) (calls : History)
    (k : SocketId) : Bytes :=
  match request, result with
  | .send id data, .ok _ => if id = k then data else []
  | .send id _, .error (.backpressure _ _ _) => if id = k then calls.taken else []
  | _, _ => []

/-- A request is carried out by a course with its events, the bytes that it adds to streams and the
socket that it dismisses without a word. -/
structure Follows (settled : Prop) (s : Session) (w : World κ) (request : Request)
    (done : Dispatched) (w' : World κ) (l : Log) (calls : List Exchange) : Prop where
  course : Course settled s w l done.session w'
  events : l.events = done.events
  history : w'.history = calls ++ w.history
  accepted : ∀ k, s.sockets.get? k ≠ none →
    (l.of k).accepted = accepted request done.result calls k
  dismissed : ∀ k, (l.of k).dismissed → request = .socketClose k
  wordless : ∀ k, request = .socketClose k → l.events = []

/-- A request for a socket is granted: the number is free, and there is room. -/
structure Grants (s : Session) (request : Request) (s' : Session) (k : SocketId)
    (kind : SocketKind) : Prop where
  asked : ∃ code, request = .socket k code ∧ SocketKind.ofWire? code = some kind
  opened : s.closed = false
  room : s.sockets.size < s.settings.maxSockets
  free : s.sockets.get? k = none
  stored : s' = s.store k { id := k, kind }

/-- A request adds a socket, or it is carried out by a course. -/
def Done (settled : Prop) (s : Session) (w : World κ) (request : Request) (done : Dispatched)
    (w' : World κ) : Prop :=
  (∃ l calls, Follows settled s w request done w' l calls) ∨
    ∃ k kind, Grants s request done.session k kind ∧ done.events = [] ∧ w' = w

theorem Done.idle {request : Request} {notices : List Notice} {result : Except RelayError Unit}
    (hr : ∀ j, s.sockets.get? j ≠ none → accepted request result [] j = []) :
    Done settled s w request { session := s, notices, result } w :=
  .inl ⟨[], [], .rest, rfl, rfl, fun j hj => (hr j hj).symm, nofun, fun _ _ => rfl⟩

theorem openSocket_done {kind : Int64} (hc : s.closed = false) :
    Done settled s w (.socket k kind) (s.openSocket k kind) w := by
  unfold openSocket
  split
  · exact .idle settled fun _ _ => rfl
  rename_i hsize
  split
  · exact .idle settled fun _ _ => rfl
  rename_i transport hkind
  split
  · exact .idle settled fun _ _ => rfl
  rename_i hk
  have hk : s.sockets.get? k = none := by simpa [Table.contains] using hk
  exact .inr ⟨k, transport, ⟨⟨kind, rfl, hkind⟩, hc, Nat.lt_of_not_le hsize, hk, rfl⟩, rfl, rfl⟩

theorem bindSocket_done {port : Port} :
    Done settled s w (.bind k port) (s.bindSocket k port) w := by
  unfold bindSocket
  split
  · exact .idle settled fun _ _ => rfl
  rename_i v hv
  split
  · rename_i b hb
    refine .inl ⟨[(k, {})], [], .single (.acted k hv (VirtualSocket.bind_conduct _ _ _ hb)),
      rfl, rfl, fun j _ => ?_, fun j hj => ?_, nofun⟩
    · simp [accepted]
    · simp at hj
  · exact .idle settled fun _ _ => rfl

theorem withSocket_ends {operation : VirtualSocket → Action κ VirtualSocket.Outcome}
    {post : VirtualSocket → VirtualSocket.Outcome → World κ → Prop}
    (h : ∀ v, s.sockets.get? k = some v → (operation v).Ends w (post v)) :
    (s.withSocket k operation).Ends w fun done w' =>
      (s.sockets.get? k = none ∧ done = { session := s, notices := [.unknownSocket] } ∧ w' = w) ∨
        ∃ v o, s.sockets.get? k = some v ∧ post v o w' ∧
          done = { session := s.store k o.socket, events := o.events, result := o.result } := by
  unfold withSocket
  split
  · exact Ends.pure (.inl ⟨‹_›, rfl, rfl⟩)
  · rename_i v hv
    exact Ends.bind (h v hv) fun o w' ho => Ends.pure (.inr ⟨v, o, hv, ho, rfl⟩)

theorem withSocket_done {request : Request}
    {operation : VirtualSocket → Action κ VirtualSocket.Outcome}
    (hr : ∀ j result calls, accepted request result calls j = [])
    (hclose : ∀ j, request ≠ .socketClose j)
    (h : ∀ v, (operation v).Ends w fun o w' =>
      Conduct s.context True True v w { events := o.events } o.socket w') :
    (s.withSocket k operation).Ends w (Done settled s w request) := by
  refine (withSocket_ends fun v _ => h v).mono ?_
  intro done w' hafter
  rcases hafter with ⟨hk, rfl, rfl⟩ | ⟨v, o, hv, hc, rfl⟩
  · exact .idle settled fun j _ => hr j _ _
  · obtain ⟨calls, hcalls⟩ := hc.history
    refine .inl ⟨_, calls, .single (.acted k hv hc), by simp, hcalls, fun j _ => ?_, fun j hj => ?_,
      fun j hj => (hclose j hj).elim⟩
    · rw [hr, Log.of_single]
      split <;> rfl
    · rw [Log.of_single] at hj
      split at hj <;> cases hj

/-- What a send asks for is data on its own socket. -/
theorem send_done {v' : VirtualSocket} {data bytes : Bytes} {w' : World κ} {l : Log}
    {result : Except RelayError Unit} {calls : List Exchange}
    (hl : l = [(k, { accepted := bytes })]) (hc : Course settled s w l (s.store k v') w')
    (hcalls : w'.history = calls ++ w.history)
    (hb : bytes = accepted (.send k data) result calls k) :
    Done settled s w (.send k data) { session := s.store k v', result } w' := by
  subst hl
  refine .inl ⟨_, calls, hc, rfl, hcalls, fun j _ => ?_, fun j hj => ?_, nofun⟩
  · rw [Log.of_single]
    split
    · rename_i hjk
      obtain rfl : k = j := hjk
      exact hb
    · rename_i hjk
      have hjk : ¬ k = j := hjk
      unfold accepted
      split <;> simp_all
  · rw [Log.of_single] at hj
    split at hj <;> cases hj

variable [OperatingSystem κ]

theorem closeSocket_ends (ho : s.AllOpen) :
    (s.closeSocket k).Ends w (Done settled s w (.socketClose k)) := by
  unfold closeSocket
  split
  · exact Ends.pure (.idle settled fun _ _ => rfl)
  rename_i v hv
  refine Ends.bind (VirtualSocket.close_ending s.context True True (ho k v hv) .wished (.refl w)) ?_
  intro v' w' hafter
  obtain ⟨hc, hclosed⟩ := hafter
  obtain ⟨calls, hcalls⟩ := hc.history
  have hforget : Act settled (s.store k v') w' [] { s with sockets := s.sockets.erase k } w' := by
    have h : Act settled (s.store k v') w' [] _ w' := .forgot (fun j _ => j ≠ k) fun j u hu hj => by
      obtain rfl : j = k := by simpa using hj
      simp only [store, Table.get?_insert_self, Option.some.injEq] at hu
      exact hu ▸ hclosed
    rwa [← Table.erase_insert s.sockets k v']
  refine Ends.pure (.inl ⟨_, calls, (Course.single (.acted k hv hc)).quietly hforget, rfl, hcalls,
    fun j _ => ?_, fun j hj => ?_, fun _ _ => rfl⟩)
  · rw [Log.of_single]
    split <;> rfl
  · rw [Log.of_single] at hj
    split at hj
    · rename_i hjk
      exact congrArg Request.socketClose hjk
    · cases hj

theorem send_ends {data : Bytes} :
    (s.withSocket k fun v => v.send s.context data).Ends w (Done settled s w (.send k data)) := by
  refine (withSocket_ends fun v _ => VirtualSocket.send_ends s.context True True).mono ?_
  intro done w' hafter
  rcases hafter with ⟨hk, rfl, rfl⟩ | ⟨v, o, hv, ⟨he, hs⟩, rfl⟩
  · refine .idle settled fun j hj => ?_
    have hj : ¬ k = j := fun h => hj (h ▸ hk)
    simp [accepted, hj]
  rw [he]
  cases hs with
  | done hr hc =>
    obtain ⟨calls, hcalls⟩ := hc.history
    refine send_done settled rfl (.single (.acted k hv hc)) hcalls ?_
    simp [accepted, hr]
  | limited calls queued limit hr hcalls hc =>
    refine send_done settled rfl (.single (.acted k hv hc)) hcalls ?_
    simp [accepted, hr]
  | refused e hr he hc =>
    obtain ⟨calls, hcalls⟩ := hc.history
    refine send_done settled rfl (.single (.acted k hv hc)) hcalls ?_
    cases e <;> simp_all [accepted]
  | unarmed d w₁ errno hr hd ht hf hc =>
    obtain ⟨calls, hcalls⟩ := hc.history
    refine send_done settled rfl (.single (.unarmed k d hv hd ht hf hc)) hcalls ?_
    simp [accepted, hr]

/-- Only a request for a socket takes note of whether the session is closed. -/
theorem carryOut_ends {request : Request}
    (hc : ∀ k kind, request = .socket k kind → s.closed = false) (ho : s.AllOpen) :
    (s.carryOut request).Ends w (Done settled s w request) := by
  cases request with
  | socket k kind => exact Ends.pure (openSocket_done settled (hc k kind rfl))
  | socketClose k => exact closeSocket_ends settled ho
  | bind k port => exact Ends.pure (bindSocket_done settled)
  | connect k address port =>
    exact withSocket_done settled (fun _ _ _ => rfl) nofun fun v =>
      VirtualSocket.connect_conduct _ _ _
  | send k data => exact send_ends settled
  | sendto k address port data =>
    exact withSocket_done settled (fun _ _ _ => rfl) nofun fun v =>
      VirtualSocket.sendto_conduct _ _ _

theorem AllOpen.reap_eq (ho : s.AllOpen) : s.reap = s := by
  have h : s.sockets.filter (fun _ v => !v.closed) = s.sockets := by
    refine Table.ext_rows (List.filter_eq_self.2 fun row hr => ?_)
    simp [ho row.1 row.2 (Table.get?_eq_some_iff.2 hr)]
  unfold reap
  rw [h]

theorem allOpen_store {kind : SocketKind} (ho : s.AllOpen) :
    (s.store k { id := k, kind }).AllOpen := by
  intro j v hv
  rw [store, Table.get?_insert] at hv
  split at hv
  · cases hv
    rfl
  · exact ho j v hv

theorem dispatch_ends {request : Request}
    (hc : ∀ k kind, request = .socket k kind → s.closed = false) (ho : s.AllOpen) :
    (s.dispatch request).Ends w fun done w' =>
      Done settled s w request done w' ∧ done.session.AllOpen := by
  unfold dispatch
  refine Ends.bind (carryOut_ends settled hc ho) ?_
  intro done w' hafter
  rcases hafter with ⟨l, calls, h⟩ | ⟨k, kind, h, he, hw⟩
  · exact Ends.pure ⟨.inl ⟨l, calls, h.course.quietly (.reap _ _ _), h.events, h.history,
      h.accepted, h.dismissed, h.wordless⟩, allOpen_reap _⟩
  · have hreap : done.session.reap = s.store k { id := k, kind } := by
      rw [h.stored]
      exact (allOpen_store ho).reap_eq
    exact Ends.pure ⟨.inr ⟨k, kind, ⟨h.asked, h.opened, h.room, h.free, hreap⟩, he, hw⟩,
      allOpen_reap _⟩

def exchangesSince (w w' : World κ) : History :=
  w'.history.take (w'.history.length - w.history.length)

/-- The bytes that a frame from the client adds to the stream of a socket. -/
def acceptedFrom (s : Session) (frame : Bytes) (w : World κ) (k : SocketId) : Bytes :=
  if s.closed then []
  else
    match Request.decode frame with
    | .error _ => []
    | .ok request =>
      let (done, w') := s.dispatch request w
      accepted request done.result (exchangesSince w w') k

/-- An operation is a course: the frames are those of its events, and no closed socket is left. -/
structure Runs (settled : Prop) (s : Session) (w : World κ) (l : Log) (reply : Reply)
    (w' : World κ) : Prop where
  course : Course settled s w l reply.session w'
  frames : reply.frames = (emit l.events).1
  allOpen : reply.session.AllOpen

/-- A frame adds a socket and writes nothing, or it is served by a course. -/
theorem onMessage_runs {frame : Bytes} (ho : s.AllOpen) :
    (s.onMessage frame).Ends w fun reply w' =>
      (∃ l, Runs settled s w l reply w' ∧
        (∀ k, s.sockets.get? k ≠ none → (l.of k).accepted = s.acceptedFrom frame w k) ∧
        ∀ k, ((l.of k).dismissed → Request.decode frame = .ok (.socketClose k)) ∧
          (Request.decode frame = .ok (.socketClose k) → l.events = [])) ∨
      ∃ request k kind, Request.decode frame = .ok request ∧
        Grants s request reply.session k kind ∧ reply.frames = [] ∧ w' = w := by
  unfold onMessage acceptedFrom
  have hnone : ∀ k, (Log.of [] k).dismissed → Request.decode frame = .ok (.socketClose k) := by
    intro k hk
    cases hk
  split
  · exact Ends.pure (.inl ⟨[], ⟨.rest, rfl, ho⟩, fun _ _ => rfl, fun k => ⟨hnone k, fun _ => rfl⟩⟩)
  rename_i hc
  have hc : s.closed = false := by simpa using hc
  cases hdecode : Request.decode frame with
  | error cause =>
    rw [hdecode] at hnone
    exact Ends.pure (.inl ⟨[], ⟨.rest, rfl, ho⟩, fun _ _ => rfl, fun k => ⟨hnone k, fun _ => rfl⟩⟩)
  | ok request =>
    have h : (s.dispatch request).Ends w fun done w' =>
        Done settled s w request done w' ∧ done.session.AllOpen :=
      dispatch_ends settled (fun _ _ _ => hc) ho
    refine Ends.bind (p := fun done w' => (done, w') = s.dispatch request w) rfl ?_
    intro done w' hd
    unfold Ends at h
    simp only [← hd] at h ⊢
    obtain ⟨⟨l, calls, h⟩ | ⟨k, kind, h, he, hw⟩, ho'⟩ := h
    · refine Ends.pure (.inl ⟨l, ⟨h.course, by rw [h.events]; rfl, ho'⟩, fun k hk => ?_,
        fun k => ⟨fun hk => ?_, fun hk => ?_⟩⟩)
      · simp [h.accepted k hk, exchangesSince, h.history]
      · rw [h.dismissed k hk]
      · exact h.wordless k (Except.ok.inj hk)
    · exact Ends.pure (.inr ⟨request, k, kind, rfl, h, by rw [he]; rfl, hw⟩)

/-- The notes that draining lets sockets handle, each with its socket as it is then. -/
def handled (s : Session) : (most : Nat) → World κ → List (VirtualSocket × Readiness)
  | 0, _ => []
  | most + 1, w =>
    match takeNote s.mailbox w with
    | (none, _) => []
    | (some note, w₁) =>
      let (first, w₂) := s.onReady note w₁
      ((s.handler? note).map fun v => (v, note)).toList ++ first.session.handled most w₂

theorem onReady_eq (s : Session) (note : Readiness) : s.onReady (κ := κ) note =
    match s.handler? note with
    | none => return { session := s }
    | some v => do
      let (v', events) ← v.handleReady s.context note.events
      return (s.store note.socket v').reap.reply [] events := by
  unfold onReady handler?
  by_cases hc : s.closed
  · simp [hc]
  · cases hv : s.sockets.get? note.socket with
    | none => simp [hc]
    | some v =>
      by_cases ht : v.token = some note.token
      · simp [hc, ht, Option.filter]
      · simp [hc, ht, Option.filter]

omit [OperatingSystem κ] in
theorem takeNote_eq (id : MailboxId) (w : World κ) : takeNote id w =
    match (w.mailbox id).queue with
    | [] => (none, w)
    | note :: queue => (some note, w.withQueue id queue) := by
  unfold takeNote Mailbox.pop?
  cases (w.mailbox id).queue <;> rfl

theorem handleReady_ends {ctx : SocketContext} {v : VirtualSocket} {ready : Interest}
    (hs : settled → v.connectStarted = none ∨ ready.write ∨ ready.error) :
    (v.handleReady ctx ready).Ends w fun r w' =>
      Conduct ctx settled False v w { events := r.2 } r.1 w' ∧
        (v.live?.isSome → r.1.closed ∨ Rearmed ctx settled v w { events := r.2 } r.1 w') := by
  cases hd : v.live? with
  | none =>
    rw [VirtualSocket.handleReady_of_live?_eq_none _ hd]
    exact Ends.pure ⟨.rest, by simp⟩
  | some d =>
    exact (VirtualSocket.handleReady_conduct ctx settled hd hs).mono fun r w' h =>
      ⟨h.1, fun _ => h.2⟩

theorem onReady_runs {note : Readiness} {queue : List Readiness} (ho : s.AllOpen)
    (hq : (w.mailbox s.mailbox).queue = note :: queue)
    (hs : settled → ∀ v, s.handler? note = some v →
      v.connectStarted = none ∨ note.events.write ∨ note.events.error) :
    (s.onReady note).Ends (w.withQueue s.mailbox queue) fun reply w' =>
      ∃ l, Runs settled s w l reply w' ∧ l.Unasked := by
  unfold onReady
  split
  · rename_i hc
    exact Ends.pure ⟨[], ⟨.single (.dropped note queue hq (by simp [handler?, hc])), rfl, ho⟩,
      Log.unasked_nil⟩
  rename_i hc
  split
  · rename_i hv
    exact Ends.pure ⟨[], ⟨.single (.dropped note queue hq (by simp [handler?, hv])), rfl, ho⟩,
      Log.unasked_nil⟩
  rename_i v hv
  split
  · rename_i ht
    have hh : s.handler? note = some v := by simp [handler?, hc, hv, ht]
    refine Ends.bind (handleReady_ends settled fun h => hs h v hh) ?_
    rintro ⟨v', events⟩ w' ⟨hd, hr⟩
    exact Ends.pure ⟨_, ⟨(Course.single (.handled note queue hq hh hd hr)).quietly (.reap _ _ _),
      by simp [reply], allOpen_reap _⟩, Log.unasked_single _ _⟩
  · rename_i ht
    have hunhandled : s.handler? note = none := by simp [handler?, hc, hv, ht]
    exact Ends.pure ⟨[], ⟨.single (.dropped note queue hq hunhandled), rfl, ho⟩, Log.unasked_nil⟩

theorem drainUpTo_runs {most : Nat} (ho : s.AllOpen)
    (hs : settled → ∀ p ∈ s.handled most w,
      p.1.connectStarted = none ∨ p.2.events.write ∨ p.2.events.error) :
    (s.drainUpTo most).Ends w fun r w' => ∃ l, Runs settled s w l r.1 w' ∧ l.Unasked := by
  induction most generalizing s w with
  | zero => exact Ends.pure ⟨[], ⟨.rest, rfl, ho⟩, Log.unasked_nil⟩
  | succ most ih =>
    unfold drainUpTo
    unfold handled at hs
    refine Ends.bind (p := fun result w' => (result, w') = takeNote s.mailbox w) rfl ?_
    intro result w₁ ht
    rw [← ht] at hs
    rw [takeNote_eq] at ht
    split at ht
    · cases ht
      exact Ends.pure ⟨[], ⟨.rest, rfl, ho⟩, Log.unasked_nil⟩
    rename_i note queue hq
    cases ht
    refine Ends.bind (p := fun first w₂ =>
      (first, w₂) = s.onReady note (w.withQueue s.mailbox queue)) rfl ?_
    intro first w₂ hf
    simp only [← hf] at hs
    have hfirst : ∃ l, Runs settled s w l first w₂ ∧ l.Unasked := by
      have h := onReady_runs settled ho hq fun h v hv => hs h (v, note) (by simp [hv])
      unfold Ends at h
      rwa [← hf] at h
    obtain ⟨l, ⟨hl, he, ho'⟩, hunasked⟩ := hfirst
    refine Ends.bind (ih ho' fun h p hp => hs h p (by simp [hp])) ?_
    rintro ⟨rest, n⟩ w₃ ⟨l', ⟨hl', he', ho''⟩, hunasked'⟩
    dsimp only at hl' he' ho''
    exact Ends.pure ⟨l ++ l', ⟨hl.trans hl', by simp [he, he'], ho''⟩, hunasked.append hunasked'⟩

theorem drainMailbox_runs (ho : s.AllOpen)
    (hs : settled → ∀ p ∈ s.handled (w.mailbox s.mailbox).queue.length w,
      p.1.connectStarted = none ∨ p.2.events.write ∨ p.2.events.error) :
    s.drainMailbox.Ends w fun r w' => ∃ l, Runs settled s w l r.1 w' ∧ l.Unasked :=
  Ends.read (drainUpTo_runs settled ho hs)

/-- These rows are in the table, and none is closed. -/
def Holds (s : Session) (rows : List (SocketId × VirtualSocket)) : Prop :=
  ∀ r ∈ rows, s.sockets.get? r.1 = some r.2 ∧ r.2.closed = false

omit [OperatingSystem κ] in
theorem AllOpen.holds (ho : s.AllOpen) {rows : List (SocketId × VirtualSocket)}
    (hp : rows.Perm s.sockets.rows) : s.Holds rows := by
  intro r hr
  have hget := Table.get?_eq_some_iff.2 (hp.mem_iff.1 hr)
  exact ⟨hget, ho _ _ hget⟩

omit [OperatingSystem κ] in
theorem Holds.store {rows : List (SocketId × VirtualSocket)} (hr : s.Holds rows)
    (hk : k ∉ rows.map Prod.fst) (v : VirtualSocket) : (s.store k v).Holds rows := by
  intro r hmem
  have hne : r.1 ≠ k := fun h => hk (h ▸ List.mem_map_of_mem hmem)
  simpa [Session.store, Table.get?_insert, hne] using hr r hmem

/-- A walk over rows of the table acts on each of them, or on none if nothing expires. -/
theorem expireAll_runs {now timeout : Nat} {rows : List (SocketId × VirtualSocket)}
    (hd : (rows.map Prod.fst).Nodup)
    (hr : s.Holds rows) :
    (expireAll now timeout rows s).Ends w fun r w' =>
      (∃ l, Course settled s w l r.1 w' ∧ l.events = r.2.1 ∧ l.Unasked) ∧
        (r.2.2 = 0 → r.1 = s ∧ w' = w) := by
  induction rows generalizing s w with
  | nil => exact Ends.pure ⟨⟨[], .rest, rfl, Log.unasked_nil⟩, fun _ => ⟨rfl, rfl⟩⟩
  | cons row rows ih =>
    obtain ⟨k, v⟩ := row
    simp only [List.map_cons, List.nodup_cons] at hd
    obtain ⟨⟨hk, hv⟩, hr⟩ : _ ∧ s.Holds rows := List.forall_mem_cons.1 hr
    unfold expireAll
    refine Ends.bind (VirtualSocket.expireConnect_conduct s.context True True hv) ?_
    rintro ⟨v', events, expired⟩ w₁ ⟨hc, hkept⟩
    refine Ends.bind (ih hd.2 (hr.store hd.1 v')) ?_
    rintro ⟨s', later, count⟩ w₂ ⟨⟨l, hl, he, hunasked⟩, h0⟩
    refine Ends.pure ⟨⟨_, (Course.single (.acted k hk hc)).trans hl, by simp [he],
      (Log.unasked_single k events).append hunasked⟩, fun hcount => ?_⟩
    obtain ⟨hx, hn⟩ : expired = false ∧ count = 0 := by
      cases expired <;> simp_all
    obtain ⟨rfl, rfl⟩ := hkept hx
    obtain ⟨rfl, rfl⟩ := h0 hn
    refine ⟨?_, rfl⟩
    simp only [store, Table.insert_of_get? hk]

theorem expireStalledConnects_runs {now : Nat} {order : SocketOrder} (ho : s.AllOpen) :
    (s.expireStalledConnects now order).Ends w fun r w' =>
      ∃ l, Runs settled s w l r.1 w' ∧ l.Unasked := by
  unfold expireStalledConnects
  split
  · exact Ends.pure ⟨[], ⟨.rest, rfl, ho⟩, Log.unasked_nil⟩
  rename_i timeout _
  refine Ends.bind (expireAll_runs settled (order.distinct _) (ho.holds (order.perm _))) ?_
  rintro ⟨after, events, expired⟩ w' ⟨⟨l, hl, he, hunasked⟩, h0⟩
  dsimp only
  split
  · obtain ⟨-, rfl⟩ := h0 ‹_›
    exact Ends.pure ⟨[], ⟨.rest, rfl, ho⟩, Log.unasked_nil⟩
  · exact Ends.pure ⟨l, ⟨hl.quietly (.reap _ _ _), by simp_all [reply], allOpen_reap _⟩, hunasked⟩

/-- Closing sockets of the table one after the other leaves each of them closed. -/
theorem closeAll_runs {rows : List (SocketId × VirtualSocket)} (hd : (rows.map Prod.fst).Nodup)
    (hr : s.Holds rows) :
    (closeAll (rows.map Prod.snd)).Ends w fun _ w' => ∃ l s', Course settled s w l s' w' ∧
      l.events = [] ∧ (∀ k, (l.of k).accepted = []) ∧ s'.closed = s.closed ∧
      ∀ k v, s'.sockets.get? k = some v → v.closed ∨
        k ∉ rows.map Prod.fst ∧ s.sockets.get? k = some v := by
  induction rows generalizing s w with
  | nil =>
    exact Ends.pure ⟨[], s, .rest, rfl, fun _ => rfl, rfl, fun k v h => .inr ⟨by simp, h⟩⟩
  | cons row rows ih =>
    obtain ⟨k, v⟩ := row
    simp only [List.map_cons, List.nodup_cons] at hd
    obtain ⟨⟨hk, hv⟩, hr⟩ : _ ∧ s.Holds rows := List.forall_mem_cons.1 hr
    unfold closeAll
    refine Ends.bind (VirtualSocket.close_ending s.context True True hv .wished (.refl w)) ?_
    intro v' w₁ hafter
    obtain ⟨hc, hclosed⟩ := hafter
    refine (ih hd.2 (hr.store hd.1 v')).mono ?_
    intro _ w₂ hafter
    obtain ⟨l, s', hl, he, haccepted, hcl, hrest⟩ := hafter
    refine ⟨_, s', (Course.single (.acted k hk hc)).trans hl, by simp [he], fun j => ?_, hcl,
      fun j u hu => ?_⟩
    · rw [Log.of_append, Traffic.accepted_append, haccepted, Log.of_single]
      split <;> rfl
    rcases hrest j u hu with hu | ⟨hj, hu⟩
    · exact .inl hu
    simp only [store, Table.get?_insert] at hu
    split at hu
    · cases hu
      exact .inl hclosed
    · rename_i hjk
      exact .inr ⟨by simp [hjk, hj], hu⟩

theorem close_runs {order : SocketOrder} (ho : s.AllOpen) :
    (s.close order).Ends w fun reply w' => ∃ l, Runs settled s w l reply w' ∧
      (∀ k, (l.of k).accepted = []) ∧ l.events = [] ∧ reply.session.closed := by
  unfold close
  split
  · exact Ends.pure ⟨[], ⟨.rest, rfl, ho⟩, fun _ => rfl, rfl, ‹_›⟩
  rename_i hc
  have hc : s.closed = false := by simpa using hc
  refine Ends.bind (closeAll_runs settled (order.distinct _) (ho.holds (order.perm _))) ?_
  intro _ w₁ hafter
  obtain ⟨l, s', hl, he, haccepted, hcl, hall⟩ := hafter
  refine Ends.bind (p := fun _ w' => w' = w₁.withQueue s.mailbox []) rfl ?_
  rintro _ _ rfl
  have hforget : Act settled s' w₁ [] { s with sockets := Table.empty } w₁ := by
    have h : Act settled s' w₁ [] _ w₁ := .forgot (fun _ _ => false) fun k v hv _ =>
      (hall k v hv).resolve_right fun h => h.1 <|
        List.mem_map_of_mem (f := Prod.fst)
          ((order.perm _).mem_iff.2 (Table.get?_eq_some_iff.1 h.2))
    have hnone : s'.sockets.filter (fun _ _ => false) = Table.empty := Table.ext_rows (by
      simp [Table.filter, Table.empty])
    have hsame := congrArg
      (fun u : Session => { u with sockets := Table.empty, closed := s.closed }) hl.fixed
    rw [hnone, hcl] at h
    exact hsame ▸ h
  have hdone : Act settled { s with sockets := Table.empty } w₁ []
      { s with sockets := Table.empty, closed := true } (w₁.withQueue s.mailbox []) :=
    .closed hc rfl
  refine Ends.pure ⟨l, ⟨(hl.quietly hforget).quietly hdone, by simp [he, emit], ?_⟩,
    haccepted, he, rfl⟩
  intro k v hv
  cases hv

end SocketRelay.Session
