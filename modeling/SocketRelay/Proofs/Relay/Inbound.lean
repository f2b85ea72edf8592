import SocketRelay.Proofs.Relay.Story
import SocketRelay.Proofs.Relay.Stream
import SocketRelay.Proofs.Session.Output

/-!
# The integrity of inbound data

What the system hands over for a socket reaches the client as it is, read by read: the frames of a
session are read back as the events that its sockets caused, in order, and the data of the events
about a socket are what was read on its descriptor. Only the end of a stream, a read that yields
nothing, is told in another way. A datagram that is empty is data like any other, and no reason for
the socket to end.

It is assumed that the system gives out fresh descriptors and that one read yields no more than a
call transfers at once, so that every event can be written. Failures to listen again are allowed.
-/
namespace SocketRelay.Relay
open History (OpensFresh ReadsBounded dealings openings readOn readings Past Spared)
open Protocol (Event)
open Session (emit Emits)
open SocketRelay.Action (Ends)
open VirtualSocket (Behind Complete Credited Deed)
variable {κ : Type} {ctx : SocketContext} {r r' : Relay κ} {i : Nat} {k : SocketId} {s : Session}
variable {v : VirtualSocket} {kind : SocketKind}

theorem map_decode_emit {es : List Event} (h : ∀ e ∈ es, e.fits) :
    (emit es).1.map Event.decode = es.map .ok := by
  induction es with
  | nil => rfl
  | cons e es ih =>
    obtain ⟨hfits, hrest⟩ := List.forall_mem_cons.1 h
    unfold emit
    dsimp only
    cases he : e.encode with
    | error cause =>
      rw [Event.fits, he] at hfits
      cases hfits
    | ok frame =>
      have hread := Event.decode_encode he []
      rw [List.append_nil] at hread
      rw [List.map_cons, List.map_cons, ih hrest, hread]

theorem payloads_eq_nil {es : List Event} : payloads es = [] ↔ ∀ e ∈ es, e.data? = none :=
  List.filterMap_eq_nil_iff

section
variable [OperatingSystem κ]

/-- The events that a step causes. -/
def caused (r : Relay κ) : Input κ → List Event
  | .frame i bytes => r.sessions[i]?.elim [] fun s => s.eventsOfFrame bytes r.world
  | .drain i => r.sessions[i]?.elim [] fun s =>
    s.eventsOfNotes (r.world.mailbox s.mailbox).queue.length r.world
  | .expire i now order => r.sessions[i]?.elim [] fun s => s.eventsOfExpiry now order r.world
  | .enter _ | .leave _ _ | .poll | .elapse _ _ => []

/-- The events that a session causes in a run, in order. -/
def produced (r : Relay κ) (i : Nat) : List (Input κ) → List Event
  | [] => []
  | x :: xs => (if x.session? = some i then r.caused x else []) ++ (r.step x).1.produced i xs

def occurred (r : Relay κ) : List (Input κ) → List Event
  | [] => []
  | x :: xs => r.caused x ++ (r.step x).1.occurred xs

omit [OperatingSystem κ] in
theorem serve_emits {operation : Session → Action κ Session.Reply} {events : Session → List Event}
    (h : ∀ s, r.sessions[i]? = some s →
      (operation s).Ends r.world fun reply w' => Emits r.world (events s) reply w') :
    (r.serve i operation).2.map Outgoing.frame = (emit (r.sessions[i]?.elim [] events)).1 ∧
      Backed r.world (r.sessions[i]?.elim [] events) (r.serve i operation).1.world := by
  unfold serve
  cases hs : r.sessions[i]? with
  | none => exact ⟨rfl, .refl r.world⟩
  | some s => exact ⟨(s.map_frame_outgoing _).trans (h s hs).frames, (h s hs).backed⟩

/-- A step writes the frames of the events that it causes, and they tell what it read. -/
theorem step_emits (ho : r.AllOpen) (x : Input κ) :
    (r.step x).2.map Outgoing.frame = (emit (r.caused x)).1 ∧
      Backed r.world (r.caused x) (r.step x).1.world := by
  cases x with
  | enter settings | elapse system now => exact ⟨rfl, [], rfl, rfl⟩
  | frame i bytes => exact serve_emits fun s hs => Session.onMessage_emits (ho i s hs)
  | drain i =>
    refine serve_emits fun s hs => Ends.bind (Ends.read Session.drainUpTo_emits) ?_
    exact fun _ _ h => Ends.pure h
  | expire i now order =>
    refine serve_emits fun s hs => Ends.bind (Session.expireStalledConnects_emits (ho i s hs)) ?_
    exact fun _ _ h => Ends.pure h
  | leave i order =>
    have hempty : r.caused (.leave i order) = r.sessions[i]?.elim [] fun _ => [] := by
      cases r.sessions[i]? <;> rfl
    rw [hempty]
    refine serve_emits fun s hs => (Session.close_runs False (ho i s hs)).mono ?_
    intro reply w' hafter
    obtain ⟨l, hl, -, he, -⟩ := hafter
    have hbacked := hl.course.backed
    have hframes := hl.frames
    rw [he] at hbacked hframes
    exact ⟨hframes, hbacked⟩
  | poll =>
    have hpoll : Backed r.world [] (Reactor.pollOnce r.world).2 := by
      rcases Reactor.pollOnce_ends (w := r.world) with ⟨e, hm⟩ | ⟨reports, w₁, hm, hd⟩
      · exact .quiet hm.history rfl
      · obtain ⟨calls, hc, hpolling⟩ := hd.round hm
        refine .quiet hc (History.readings_eq_nil.2 fun x hx => ?_)
        cases hpolling x hx <;> rfl
    exact ⟨rfl, hpoll⟩

theorem map_decode_written (ho : r.AllOpen) (hf : r.AllFormed) {xs : List (Input κ)}
    (hb : ReadsBounded (r.run xs).world.history) (i : Nat) :
    (r.written i xs).map Event.decode = (r.produced i xs).map .ok := by
  induction xs generalizing r with
  | nil => rfl
  | cons x xs ih =>
    obtain ⟨l, hturn⟩ := step_turn False ho x False.elim
    have hopen := hturn.allOpen ho
    obtain ⟨hframes, hbacked⟩ := step_emits ho x
    have hfits := hbacked.fits (throughout_before hopen hb)
    rw [written, produced, hf.framesTo_step, List.map_append, List.map_append,
      ih hopen (hf.turn hturn) hb]
    congr 1
    split
    · rw [hframes, map_decode_emit hfits]
    · rfl

/-- What is read in a run is told in it. -/
theorem occurred_backed (ho : r.AllOpen) (xs : List (Input κ)) :
    Backed r.world (r.occurred xs) (r.run xs).world := by
  induction xs generalizing r with
  | nil => exact .refl r.world
  | cons x xs ih =>
    obtain ⟨l, hturn⟩ := step_turn False ho x False.elim
    exact (step_emits ho x).2.trans (ih (hturn.allOpen ho))

theorem told_append (r : Relay κ) (i : Nat) (k : SocketId) (xs ys : List (Input κ)) :
    r.told i k (xs ++ ys) = r.told i k xs ++ (r.run xs).told i k ys := by
  induction xs generalizing r with
  | nil => rfl
  | cons x xs ih =>
    rw [List.cons_append, told_cons, ih, told_cons r i k x xs, List.append_assoc, run_cons]

/-- A step that takes a socket without a registration out of the table tells no data of it. -/
theorem told_unregistered (ho : r.AllOpen) (hf : r.AllFormed) (hv : r.socket? i k = some v)
    (ht : v.token = none)
    {x : Input κ} (hn : (r.step x).1.socket? i k = none) : payloads (r.told i k [x]) = [] := by
  obtain ⟨s, hs, hsk⟩ := socket?_eq_some.1 hv
  have hdataless : x.session? = some i → payloads (r.caused x) = [] := by
    intro hx
    cases x with
    | frame j bytes =>
      cases hx
      change payloads (r.sessions[i]?.elim [] _) = []
      rw [hs]
      exact s.eventsOfFrame_payloads bytes r.world
    | drain j =>
      cases hx
      have hkept : (s.drainUpTo (r.world.mailbox s.mailbox).queue.length).Ends r.world _ :=
        Session.drainUpTo_unregistered hsk ht (ho i s hs k v hsk)
      change (r.serve i _).1.socket? i k = none at hn
      rw [serve_of_session hs, socket?_put hs, if_pos rfl] at hn
      cases hkept.symm.trans hn
    | expire j now order =>
      cases hx
      change payloads (r.sessions[i]?.elim [] _) = []
      rw [hs]
      exact s.eventsOfExpiry_payloads now order r.world
    | leave | enter | poll | elapse => rfl
  unfold told
  rw [written, written, List.append_nil, hf.framesTo_step]
  split
  · rename_i hx
    rw [(step_emits ho x).1, heard, decode_emit]
    refine payloads_eq_nil.2 fun e he => ?_
    have hmem := (List.mem_filter.1 (List.mem_filter.1 he).1).1
    exact payloads_eq_nil.1 (hdataless hx) e hmem
  · rfl

end

/-- A stream tells of no empty data, and every event can be written. -/
structure Legible (kind : SocketKind) (es : List Event) : Prop where
  stream : kind = .tcp → [] ∉ payloads es
  fits : ∀ e ∈ es, e.fits

/-- The data told of an open socket are what was read on its descriptor. -/
structure Received (kind : SocketKind) (real : Option (Descriptor × Nat)) (h : History)
    (v : VirtualSocket) (t : Traffic) : Prop where
  kind_eq : v.kind = kind
  credited : Credited h v (payloads t.events)
  legible : Legible kind t.events
  behind : Behind real h v

/-- The data told of a socket that has ended are what was read on the real socket. -/
structure Exhausted (kind : SocketKind) (real : Option (Descriptor × Nat)) (h : History)
    (t : Traffic) : Prop where
  legible : Legible kind t.events
  complete : ∀ d n, real = some (d, n) →
    Past d n h ∧ Complete kind (readOn d n h) (payloads t.events)

/-- What the system is trusted with here: fresh descriptors, and reads that are not too long. -/
def Reliable (h : History) : Prop := OpensFresh h ∧ ReadsBounded h

theorem Reliable.of_append {calls h : History} (hq : Reliable (calls ++ h)) : Reliable h :=
  ⟨hq.1.of_append, hq.2.of_append⟩

theorem legible_deed {settled steady : Prop} {v' : VirtualSocket} {rx rx' : Reactor}
    {calls : List Exchange} {t t' : Traffic} {h : History}
    (hd : Deed ctx settled steady v rx calls t' v' rx') (hl : Legible v.kind t.events)
    (hb : ReadsBounded (calls ++ h)) : Legible v.kind (t ++ t').events := by
  rw [Traffic.events_append]
  constructor
  · intro hk hmem
    rw [payloads_append] at hmem
    rcases List.mem_append.1 hmem with hmem | hmem
    · exact hl.stream hk hmem
    · exact hd.stream_payloads hk hmem
  · intro e he
    rcases List.mem_append.1 he with he | he
    · exact hl.fits e he
    · exact VirtualSocket.fits_of_read hd.substance_eq hb e he

theorem reading_biography (ctx : SocketContext) (kind : SocketKind)
    (real : Option (Descriptor × Nat)) :
    Biography ctx False Reliable (Received kind real) (Exhausted kind real) where
  suffix _ _ hq := hq.of_append
  deed := by
    intro v v' r r' calls t t' h hsound hopen hl hd hq
    obtain ⟨rfl, hcredited, hlegible, hbehind⟩ := hl
    have hlegible' := legible_deed hd hlegible hq.2
    constructor
    · intro hopen'
      refine ⟨hd.kind_eq, ?_, hlegible', hbehind.deed hd hopen'⟩
      rw [Traffic.events_append, payloads_append]
      exact hd.credited hcredited hopen'
    · intro hclosed
      refine ⟨hlegible', fun d n hdn => ?_⟩
      obtain ⟨hheld, rfl⟩ := hbehind d n hdn
      rw [Traffic.events_append, payloads_append]
      exact ⟨hd.past hopen hclosed hheld, hd.complete hcredited hheld⟩
  others := by
    intro v t h calls hl hsame
    obtain ⟨hkind, hcredited, hlegible, hbehind⟩ := hl
    refine ⟨hkind, ⟨hcredited.bare, fun d hheld => ?_⟩, hlegible, hbehind.spared hsame⟩
    rw [(hsame d hheld).openings, (hsame d hheld).readOn]
    exact hcredited.held d hheld
  later := by
    intro t h calls hp hsame
    refine ⟨hp.legible, fun d n hdn => ?_⟩
    obtain ⟨hpast, hcomplete⟩ := hp.complete d n hdn
    refine ⟨hpast.append calls, ?_⟩
    unfold readOn
    rw [hsame d n hpast]
    exact hcomplete
  fresh := .inl fun _ hq => hq.1
  arming := by
    refine .inr ⟨fun {h v t data} hl => ?_, fun {h t data} hp => ?_⟩
    · obtain ⟨hkind, hcredited, hlegible, hbehind⟩ := hl
      rw [Traffic.events_append, List.append_nil] at hcredited hlegible
      exact ⟨hkind, hcredited, hlegible, hbehind⟩
    · obtain ⟨hlegible, hcomplete⟩ := hp
      rw [Traffic.events_append, List.append_nil] at hlegible hcomplete
      exact ⟨hlegible, hcomplete⟩

variable [OperatingSystem κ]

theorem Reliable.before {xs : List (Input κ)} (ho : r.AllOpen)
    (hq : Reliable (r.run xs).world.history) : Reliable r.world.history :=
  ⟨throughout_before ho hq.1, throughout_before ho hq.2⟩

/-- What a step tells of a socket is all of its share, if all of it can be written. -/
theorem Turn.told_legible {x : Input κ} {l : Log}
    (ht : Turn False r x l (r.step x).2 (r.step x).1) (hf : r.AllFormed) (hsound : r.AllSound)
    (hl : ∀ e ∈ (x.share l i k).events, e.fits) : r.told i k [x] = (x.share l i k).events := by
  rw [ht.told hf hsound, List.filter_eq_self.2 hl]

/-- In an incarnation that goes on, the data told are what was read on the socket's descriptor. -/
theorem Incarnation.received {x : Input κ} {xs : List (Input κ)} (hi : Incarnation r i k kind x xs)
    (hopen : r.AllOpen) (hb : Basis Reliable r) (hq : Reliable (r.run (x :: xs)).world.history) :
    ∃ s v t, (r.run (x :: xs)).sessions[i]? = some s ∧ s.sockets.get? k = some v ∧
      Received kind none (r.run (x :: xs)).world.history v t ∧ r.told i k (x :: xs) = t.events := by
  obtain ⟨l, hbirth⟩ := step_turn False hopen x False.elim
  have hopen₁ := hbirth.allOpen hopen
  have hq₁ : Reliable (r.step x).1.world.history := hq.before hopen₁
  have hb₁ := hb.turn hbirth hq₁
  obtain ⟨hborn, hsilent⟩ := hi.begins hopen
  obtain ⟨s₁, hs₁, hsk₁⟩ := socket?_eq_some.1 hborn
  have hbegun : Received kind none (r.step x).1.world.history { id := k, kind } {} :=
    ⟨rfl, ⟨fun _ => rfl, nofun⟩, ⟨fun _ => List.not_mem_nil, nofun⟩, VirtualSocket.behind_none _ _⟩
  have hexists : ∃ t, Chronicle False i k (r.step x).1 xs t :=
    chronicle_exists hopen₁ False.elim i k
  obtain ⟨t, ht⟩ := hexists
  obtain ⟨s, v, hs, hv, -, hreceived⟩ :=
    (reading_biography s₁.context kind none).run_alive hopen₁ hb₁ hs₁ hsk₁ hbegun ht hi.kept hq
  rw [Traffic.nothing_append] at hreceived
  refine ⟨s, v, t, hs, hv, hreceived, ?_⟩
  have hfirst : r.told i k [x] = [] := by
    unfold told
    rw [written, hsilent]
    rfl
  rw [told_cons, hfirst, List.nil_append, ht.told hb₁.formed hb₁.sound,
    List.filter_eq_self.2 hreceived.legible.fits]

/-- The step that takes the socket out of the table tells the rest of what was read for it. -/
theorem Received.last {x : Input κ} {l : Log} {t : Traffic}
    (hl : Received kind none r.world.history v t) (hopen : r.AllOpen) (hb : Basis Reliable r)
    (hs : r.sessions[i]? = some s) (hv : s.sockets.get? k = some v)
    (ht : Turn False r x l (r.step x).2 (r.step x).1) (hq : Reliable (r.step x).1.world.history)
    (hn : (r.step x).1.socket? i k = none) :
    r.told i k [x] = (x.share l i k).events ∧ ∀ real, Behind real r.world.history v →
      Exhausted kind real (r.step x).1.world.history (t ++ x.share l i k) := by
  have hend : ∀ real, Behind real r.world.history v →
      Exhausted kind real (r.step x).1.world.history (t ++ x.share l i k) := by
    intro real hbehind
    have hnow : Received kind real r.world.history v t := { hl with behind := hbehind }
    exact ((reading_biography s.context kind real).turn hopen hb hs hv hnow ht hq).2 hn
  have hfits := (hend none (VirtualSocket.behind_none _ v)).legible.fits
  rw [Traffic.events_append] at hfits
  have htold := ht.told_legible (i := i) (k := k) hb.formed hb.sound fun e he =>
    hfits e (List.mem_append_right _ he)
  exact ⟨htold, hend⟩

/-- The data of one incarnation, given the inputs through which the socket lived and those after. -/
structure HandedOver (r : Relay κ) (i : Nat) (k : SocketId) (kind : SocketKind)
    (lived later : List (Input κ)) : Prop where
  /-- While the socket is there, the data told are what was read on its descriptor. -/
  present : ∃ v, (r.run lived).socket? i k = some v ∧ v.kind = kind ∧
    Credited (r.run lived).world.history v (payloads (r.told i k lived))
  /-- Once it is gone, they are what was read on that descriptor for good. -/
  gone : ∀ v y ys, (r.run lived).socket? i k = some v → later = y :: ys →
    ((r.run lived).step y).1.socket? i k = none →
      (v.descriptor = none → payloads (r.told i k (lived ++ [y])) = []) ∧
      (∀ d, v.descriptor = some d → Complete kind
        (readOn d (openings d (r.run lived).world.history) (r.run (lived ++ later)).world.history)
        (payloads (r.told i k (lived ++ [y])))) ∧
      (kind = .tcp → [] ∉ payloads (r.told i k (lived ++ [y])))
  /-- A stream never tells of empty data. -/
  stream : kind = .tcp → [] ∉ payloads (r.told i k lived)

theorem Incarnation.handedOver {x : Input κ} {xs later : List (Input κ)}
    (hi : Incarnation r i k kind x xs) (hopen : r.AllOpen) (hb : Basis Reliable r)
    (hq : Reliable (r.run (x :: xs ++ later)).world.history) :
    HandedOver r i k kind (x :: xs) later := by
  have hopen₁ := allOpen_run hopen (x :: xs)
  have hq₁ : Reliable (r.run (x :: xs)).world.history := by
    rw [run_append] at hq
    exact hq.before hopen₁
  have hb₁ : Basis Reliable (r.run (x :: xs)) :=
    hb.run hopen (fun _ _ h => h.of_append) hq₁
  obtain ⟨s, v, t, hs, hv, hreceived, htold⟩ := hi.received hopen hb hq₁
  have hik : (r.run (x :: xs)).socket? i k = some v := (socket?_of_session hs k).trans hv
  refine ⟨⟨v, hik, hreceived.kind_eq, ?_⟩, ?_, ?_⟩
  · rw [htold]
    exact hreceived.credited
  · intro u y ys hu hlater hn
    cases hik.symm.trans hu
    have hfinal : r.run (x :: xs ++ later) = ((r.run (x :: xs)).step y).1.run ys := by
      rw [hlater, run_append]
      rfl
    rw [hfinal] at hq ⊢
    obtain ⟨l, hturn⟩ := step_turn False hopen₁ y False.elim
    have hopen₂ := hturn.allOpen hopen₁
    have hq₂ : Reliable ((r.run (x :: xs)).step y).1.world.history := hq.before hopen₂
    obtain ⟨hlast, hend⟩ := hreceived.last hopen₁ hb₁ hs hv hturn hq₂ hn
    have hall : r.told i k (x :: xs ++ [y]) = (t ++ y.share l i k).events := by
      rw [told_append, htold, hlast, Traffic.events_append]
    refine ⟨fun hbare => ?_, fun d hheld => ?_, ?_⟩
    · have htoken := ((hb₁.sound i k v hik).1.bare hbare).1
      rw [told_append, payloads_append, told_unregistered hopen₁ hb₁.formed hik htoken hn, htold,
        hreceived.credited.bare hbare]
      rfl
    · obtain ⟨hpast, hcomplete⟩ :=
        (hend _ (VirtualSocket.behind_of_held hheld)).complete d _ rfl
      have howned : ((r.run (x :: xs)).step y).1.Owned :=
        (hb₁.turn hturn hq₂).owned fun _ h => h.1
      unfold readOn at hcomplete ⊢
      rw [hall, howned.run_past hopen₂ hq.1 hpast]
      exact hcomplete
    · rw [hall]
      exact (hend none (VirtualSocket.behind_none _ v)).legible.stream
  · rw [htold]
    exact hreceived.legible.stream

/-- Inbound data in a run. -/
structure InboundExact (r₀ : Relay κ) (zs : List (Input κ)) : Prop where
  /-- The frames of a session are read back as the events that it caused, one for one. -/
  frames : ∀ i, (r₀.written i zs).map Event.decode = (r₀.produced i zs).map .ok
  /-- All sessions together tell all data that were read, each once and in order. -/
  reads : substance (payloads (r₀.occurred zs)) = substance (readings (r₀.run zs).world.history)
  incarnations : ∀ before x xs later i k kind, zs = before ++ (x :: xs ++ later) →
    Incarnation (r₀.run before) i k kind x xs →
      HandedOver (r₀.run before) i k kind (x :: xs) later

/-- What the system hands over for a socket is told to its client as it is, read by read, in every
incarnation of every socket, and nothing else is told as data. -/
theorem inbound_exact {system : κ} {maxEvents : Nat} {zs : List (Input κ)}
    (hf : OpensFresh ((start system maxEvents).run zs).world.history)
    (hb : ReadsBounded ((start system maxEvents).run zs).world.history) :
    InboundExact (start system maxEvents) zs ∧
      ∀ (s : Session) (note : Readiness) (v : VirtualSocket) (w : World κ),
        s.handler? note = some v →
        v.Sound → v.kind = .udp → s.Undisturbed note v w := by
  have hopen := allOpen_start system maxEvents
  refine ⟨⟨map_decode_written hopen (allFormed_start system maxEvents) hb, ?_, ?_⟩, ?_⟩
  · obtain ⟨calls, hcalls, hsame⟩ := occurred_backed hopen zs
    rw [hsame, hcalls]
    exact congrArg (fun h => substance (readings h)) (List.append_nil calls).symm
  · intro before x xs later i k kind hzs hi
    subst hzs
    rw [run_append] at hf hb
    have hopen' := allOpen_run hopen before
    have hq : Reliable _ := ⟨hf, hb⟩
    have hbasis : Basis Reliable ((start system maxEvents).run before) :=
      (owned_start system maxEvents).basis.run hopen (fun _ _ h => h.of_append) (hq.before hopen')
    exact hi.handedOver hopen' hbasis hq
  · exact fun s note v w hh hv hk => Session.onReady_undisturbed hh hv hk

end SocketRelay.Relay

namespace SocketRelay.Loopback
open History (OpensFresh ReadsBounded openings readOn)
open Relay (Incarnation Input inbound_exact)
open VirtualSocket (Complete)

/-- The network after a visit, once the peer has sent two bytes and reset the stream. -/
def streamReset : Network :=
  let visited := ((Relay.start listening 8).run visit).world.system
  (((visited.accept "peer" "stream").2.streamSend? "stream" [111, 107]).bind
    (·.streamAbort? "stream")).getD visited

/-- The stay, until the relay is told of that. -/
def stayUntilReset : List (Input Network) := stay ++ [.elapse streamReset 1, .poll]

/-- The session handles one readiness: there is data to read, and the peer has hung up. -/
theorem told_of_stayUntilReset :
    ((Relay.start listening 8).run [.enter {}]).told 0 1
        (asks (.socket 1 0) :: stayUntilReset ++ [.drain 0]) =
      [.connected 1 true, .recv 1 [111, 107], .closed 1] ∧
      (((Relay.start listening 8).run [.enter {}]).run
        (asks (.socket 1 0) :: stayUntilReset)).socket? 0 1 =
        some { id := 1, kind := .tcp, descriptor := some 3, token := some (Token.pack 3 1),
               connected := true } ∧
      openings 3 (((Relay.start listening 8).run [.enter {}]).run
        (asks (.socket 1 0) :: stayUntilReset)).world.history = 1 ∧
      ((((Relay.start listening 8).run [.enter {}]).run
        (asks (.socket 1 0) :: stayUntilReset)).step (.drain 0)).1.socket? 0 1 = none := by
  decide +kernel

theorem incarnation_stayUntilReset :
    Incarnation ((Relay.start listening 8).run [.enter {}]) 0 1 .tcp
      (asks (.socket 1 0)) stayUntilReset where
  asked := ⟨_, 0, rfl, eq_ok_of_toOption (by decide +kernel), rfl⟩
  fresh := by decide +kernel
  kept := by decide +kernel

/-- The network with one peer for datagrams, on port 23911. -/
def receiving : Network := ({ up := true } : Network).addPeer "peer" .udp

/-- The client sends a datagram to the peer. -/
def datagramSent : List (Input Network) :=
  [asks (.sendto 1 [127, 0, 0, 1] 23911 [104, 105]), .poll, .drain 0]

/-- The network after that, once the peer has answered with an empty datagram. -/
def answering : Network :=
  let sent :=
    ((Relay.start receiving 8).run ([.enter {}] ++ asks (.socket 1 1) :: datagramSent)).world.system
  ((sent.udpReceive "peer").2.udpSend? "peer" 0 []).getD sent

/-- The life of the datagram socket, until the relay has handled the answer. -/
def datagramAnswered : List (Input Network) :=
  datagramSent ++ [.elapse answering 1, .poll, .drain 0]

theorem told_of_datagramAnswered :
    ((Relay.start receiving 8).run [.enter {}]).told 0 1 (asks (.socket 1 1) :: datagramAnswered) =
      [.recv 1 []] ∧
      (((Relay.start receiving 8).run [.enter {}]).run
        (asks (.socket 1 1) :: datagramAnswered)).socket? 0 1 =
        some { id := 1, kind := .udp, descriptor := some 3, token := some (Token.pack 3 1) } ∧
      openings 3 (((Relay.start receiving 8).run [.enter {}]).run
        (asks (.socket 1 1) :: datagramAnswered)).world.history = 1 := by
  decide +kernel

theorem incarnation_datagramAnswered :
    Incarnation ((Relay.start receiving 8).run [.enter {}]) 0 1 .udp
      (asks (.socket 1 1)) datagramAnswered where
  asked := ⟨_, 1, rfl, eq_ok_of_toOption (by decide +kernel), rfl⟩
  fresh := by decide +kernel
  kept := by decide +kernel

/-- The stream ended with what it had told, and the datagram socket was told of the empty
datagram. -/
theorem inbound_exact_stayUntilReset :
    Complete .tcp (readOn 3 1 (((Relay.start listening 8).run [.enter {}]).run
      (asks (.socket 1 0) :: stayUntilReset ++ [.drain 0])).world.history) [[111, 107]] ∧
    readOn 3 1 (((Relay.start receiving 8).run [.enter {}]).run
      (asks (.socket 1 1) :: datagramAnswered)).world.history = [[]] := by
  constructor
  · have hf : OpensFresh ((Relay.start listening 8).run
        ([.enter {}] ++ (asks (.socket 1 0) :: stayUntilReset ++ [.drain 0]))).world.history := by
      decide +kernel
    have hb : ReadsBounded ((Relay.start listening 8).run
        ([.enter {}] ++ (asks (.socket 1 0) :: stayUntilReset ++ [.drain 0]))).world.history := by
      decide +kernel
    have hinbound := inbound_exact hf
    obtain ⟨hexact, -⟩ := hinbound hb
    obtain ⟨htold, hlast, hcount, hgone⟩ := told_of_stayUntilReset
    have hover :=
      hexact.incarnations [.enter {}] _ _ [.drain 0] 0 1 .tcp rfl incarnation_stayUntilReset
    obtain ⟨-, hcomplete, -⟩ := hover.gone _ _ [] hlast rfl hgone
    have hthree := hcomplete 3 rfl
    rw [hcount, htold] at hthree
    exact hthree
  · have hf : OpensFresh ((Relay.start receiving 8).run
        ([.enter {}] ++ (asks (.socket 1 1) :: datagramAnswered ++ []))).world.history := by
      decide +kernel
    have hb : ReadsBounded ((Relay.start receiving 8).run
        ([.enter {}] ++ (asks (.socket 1 1) :: datagramAnswered ++ []))).world.history := by
      decide +kernel
    have hinbound := inbound_exact hf
    obtain ⟨hexact, -⟩ := hinbound hb
    obtain ⟨htold, hlast, hcount⟩ := told_of_datagramAnswered
    have hover := hexact.incarnations [.enter {}] _ _ [] 0 1 .udp rfl incarnation_datagramAnswered
    obtain ⟨v, hv, -, hcredited⟩ := hover.present
    cases hlast.symm.trans hv
    have hthree := hcredited.held 3 rfl
    rw [hcount, htold] at hthree
    exact hthree

end SocketRelay.Loopback
