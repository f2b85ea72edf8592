import SocketRelay.Proofs.Relay.Incarnation
import SocketRelay.Proofs.Socket.Story

/-!
# What a client is told of a socket

The frames that a session writes are read back as events, so the events about a socket can be told
from the bytes alone. For every incarnation of a socket they follow the grammar of its kind: as long
as the socket is in the table its story is unfinished, and when it leaves the table the story has
come to its end, unless the client asked for the end of the socket. No event names the number again
before another request for it is granted.
-/
namespace SocketRelay.Relay
open Protocol (Event)
open History (ReadsWithin)
open Session (emit)
open VirtualSocket (Deed Conduct)
variable {κ : Type} {ctx : SocketContext} {settled : Prop} {r r' : Relay κ} {i : Nat} {k : SocketId}
variable {s s' : Session} {v : VirtualSocket} {w' : World κ} {l : Log} {t : Traffic}

/-- The events about a socket that frames carry. -/
def heard (k : SocketId) (frames : List Bytes) : List Event :=
  (frames.filterMap fun frame => (Event.decode frame).toOption).filter fun e => e.socketId = k

theorem heard_append (k : SocketId) (a b : List Bytes) :
    heard k (a ++ b) = heard k a ++ heard k b := by
  unfold heard
  rw [List.filterMap_append, List.filter_append]

theorem decode_emit (es : List Event) :
    (emit es).1.filterMap (fun frame => (Event.decode frame).toOption) = es.filter Event.fits := by
  induction es with
  | nil => rfl
  | cons e es ih =>
    unfold emit
    dsimp only
    cases he : e.encode with
    | error cause =>
      have hfits : e.fits = false := by rw [Event.fits, he]; rfl
      rw [List.filter_cons_of_neg (by simp [hfits])]
      exact ih
    | ok frame =>
      have hfits : e.fits = true := by rw [Event.fits, he]; rfl
      have hread := Event.decode_encode he []
      rw [List.append_nil] at hread
      rw [List.filter_cons_of_pos hfits, ← ih, List.filterMap_cons, hread]
      rfl

theorem AllSound.act_named (h : r.AllSound) (hs : r.sessions[i]? = some s)
    (ha : Session.Act settled s r.world l s' w') : l.Named := by
  have hsingle : ∀ {settled steady : Prop} {w w' : World κ} {m u t u'}, s.sockets.get? m = some u →
      Conduct s.context settled steady u w t u' w' → Log.Named [(m, t)] := by
    intro settled steady w w' m u t u' hu hc
    have hid := (h i m u ((socket?_of_session hs m).trans hu)).2
    exact List.forall_mem_singleton.2 fun e he => (hc.named e he).trans hid
  cases ha with
  | acted m hu hc => exact hsingle hu hc
  | unarmed => exact List.forall_mem_singleton.2 nofun
  | handled note queue hq hu hc => exact hsingle (Session.handler?_eq_some hu).2.1 hc
  | dropped | forgot | closed => exact nofun

theorem AllSound.course_named (h : r.AllSound) (hs : r.sessions[i]? = some s)
    (hc : Session.Course settled s r.world l s' w') : l.Named := by
  refine (course_preserves (p := fun r l => r.AllSound ∧ l.Named) (q := fun _ => True)
    (fun _ _ _ => trivial) ?_ hs hc ⟨h, nofun⟩ trivial).2
  intro r l s l' s' w' hrl hs ha _
  obtain ⟨hsound, hnamed⟩ := hrl
  refine ⟨hsound.act hs ha, fun a hmem => ?_⟩
  rcases List.mem_append.1 hmem with hmem | hmem
  · exact hnamed a hmem
  · exact hsound.act_named hs ha a hmem

variable [OperatingSystem κ]

/-- The events about a socket that its session writes in a run. -/
def told (r : Relay κ) (i : Nat) (k : SocketId) (xs : List (Input κ)) : List Event :=
  heard k (r.written i xs)

theorem told_cons (r : Relay κ) (i : Nat) (k : SocketId) (x : Input κ) (xs : List (Input κ)) :
    r.told i k (x :: xs) = r.told i k [x] ++ (r.step x).1.told i k xs := by
  unfold told
  rw [written, heard_append, written, written, List.append_nil]

/-- What a step tells of a socket is the socket's share of the step, as far as it fits. -/
theorem Turn.told {x : Input κ} (h : Turn settled r x l (r.step x).2 r') (hf : r.AllFormed)
    (hsound : r.AllSound) : r.told i k [x] = (x.share l i k).events.filter Event.fits := by
  unfold Relay.told
  rw [written, written, List.append_nil]
  generalize (r.step x).2 = frames at h ⊢
  cases h with
  | served j hx hs hc =>
    rw [Input.share_of_session hx, framesTo_outgoing, (hf j _ hs).writer]
    unfold Relay.share
    by_cases hj : j = i
    · rw [if_pos hj, if_pos hj, heard, decode_emit, List.filter_filter,
        ← (hsound.course_named hs hc).events_of, List.filter_filter]
      congr 1
      funext e
      exact Bool.and_comm _ _
    · rw [if_neg hj, if_neg hj]
      rfl
  | absent | opened | entered | unpolled | polled | elapsed =>
    rw [Input.share_nil]
    rfl

theorem Chronicle.told {xs : List (Input κ)} (h : Chronicle settled i k r xs t) (hf : r.AllFormed)
    (hsound : r.AllSound) : r.told i k xs = t.events.filter Event.fits := by
  induction h with
  | done r => rfl
  | turn hturn _ ih =>
    rw [told_cons, hturn.told hf hsound, ih (hf.turn hturn) (hsound.turn hturn),
      Traffic.events_append, List.filter_append]

/-- The socket of this number and kind is in the middle of its story. -/
structure Telling (k : SocketId) (kind : SocketKind) (most : Nat) (v : VirtualSocket)
    (t : Traffic) :
    Prop where
  id : v.id = k
  kind : v.kind = kind
  wanted : t.dismissed = false
  told : v.Told most t.events

/-- The socket was dismissed in the middle of its story, or has told it to the end. -/
def Silenced (k : SocketId) (kind : SocketKind) (most : Nat) (t : Traffic) : Prop :=
  if t.dismissed then Unfinished k most kind t.events else Finished k most kind t.events

omit [OperatingSystem κ] in
theorem story_biography (ctx : SocketContext) (k : SocketId) (kind : SocketKind) :
    Biography ctx True ReadsWithin (fun _ => Telling k kind ctx.settings.recvBuffer)
      (fun _ => Silenced k kind ctx.settings.recvBuffer) where
  suffix _ _ hq := hq.of_append
  deed := by
    intro v v' r r' calls t t' h hsound hopen hl hd hreads
    obtain ⟨rfl, rfl, hwanted, htold⟩ := hl
    constructor
    · intro hopen'
      refine ⟨hd.id_eq, hd.kind_eq, ?_, hd.told hsound hreads htold hopen'⟩
      rw [Traffic.dismissed_append, hwanted, hd.undismissed hopen', Bool.or_false]
    · intro hclosed
      have hend := hd.told_end hsound htold hclosed
      unfold Silenced
      rw [Traffic.dismissed_append, Traffic.events_append, hwanted, Bool.false_or]
      split at hend
      · rename_i hdismissed
        rw [if_pos hdismissed, hend, List.append_nil]
        exact htold.unfinished
      · rename_i hdismissed
        rw [if_neg hdismissed]
        exact hend
  others hl _ := hl
  later hp _ := hp
  fresh := .inr ⟨fun hl _ => hl, fun hp _ => hp⟩
  arming := by
    refine .inr ⟨fun {h v t data} hl => ?_, fun {h t data} hp => ?_⟩
    · obtain ⟨hid, hkind, hwanted, htold⟩ := hl
      rw [Traffic.dismissed_append, Bool.or_false] at hwanted
      rw [Traffic.events_append, List.append_nil] at htold
      exact ⟨hid, hkind, hwanted, htold⟩
    · unfold Silenced at hp ⊢
      rwa [Traffic.dismissed_append, Bool.or_false, Traffic.events_append, List.append_nil] at hp

theorem held_biography (ctx : SocketContext) (settled : Prop) {q : History → Prop}
    (hsuffix : ∀ calls h, q (calls ++ h) → q h) :
    Biography ctx settled q (fun _ v _ => v.descriptor ≠ none) (fun _ _ => True) where
  suffix := hsuffix
  deed := by
    intro v v' r r' calls t t' h hsound hopen hl hd _
    refine ⟨fun hopen' => ?_, fun _ => trivial⟩
    obtain ⟨d, hheld⟩ := Option.ne_none_iff_exists'.1 hl
    rw [hd.descriptor_eq hheld hopen']
    exact nofun
  others hl _ := hl
  later _ _ := trivial
  fresh := .inr ⟨fun hl _ => hl, fun _ _ => trivial⟩
  arming := .inr ⟨fun hl => hl, fun _ => trivial⟩

/-- What one input means for a socket that is there, after what has been told of it so far. -/
structure Passage (r : Relay κ) (i : Nat) (k : SocketId) (v : VirtualSocket) (most : Nat)
    (soFar : List Event) (y : Input κ) : Prop where
  /-- Neither the client's request nor its leaving is answered. -/
  wordless : ∀ m, y.Dismisses i m → (r.step y).2 = []
  /-- A pending connect is over: its outcome is told, once. -/
  decided : v.state = .connecting →
    (∀ v', (r.step y).1.socket? i k = some v' → v'.state ≠ .connecting) →
      outcomes (r.told i k [y]) = 1 ∨ y.Dismisses i k
  /-- The socket is out of the table: its end is told. -/
  ended : (r.step y).1.socket? i k = none →
    Finished k most v.kind (soFar ++ r.told i k [y]) ∨ y.Dismisses i k

theorem Turn.wordless {x : Input κ} {frames : List Outgoing} (h : Turn settled r x l frames r')
    {m : SocketId} (hx : x.Dismisses i m) : frames = [] := by
  cases h with
  | served j hj hs hc hopen hacc hdis hword =>
    have hij : i = j := by
      obtain ⟨order, rfl⟩ | ⟨bytes, rfl, -⟩ := hx <;> exact Option.some.inj hj
    rw [hword m (hij ▸ hx)]
    rfl
  | absent | opened | entered | unpolled | polled | elapsed => rfl

theorem Turn.dismisses {x : Input κ} {frames : List Outgoing} (h : Turn settled r x l frames r')
    (hd : (x.share l i k).dismissed) : x.Dismisses i k := by
  cases h with
  | served j hx hs hc hopen hacc hdis =>
    rw [Input.share_of_session hx] at hd
    unfold Relay.share at hd
    split at hd
    · rename_i hj
      exact hj ▸ hdis k hd
    · cases hd
  | absent | opened | entered | unpolled | polled | elapsed =>
    rw [Input.share_nil] at hd
    cases hd

/-- A stream that was silent and is connected afterwards has told the outcome of its connect. -/
theorem outcomes_of_connected {most : Nat} {kind : SocketKind} (h : Telling k kind most v t)
    (hk : kind = .tcp) (hv : v.connected) : outcomes (t.events.filter Event.fits) = 1 := by
  obtain ⟨rfl, rfl, -, htold⟩ := h
  have hunfinished := htold.unfinished.filter fun _ => Event.fits_of_dataless
  rw [hk] at hunfinished
  refine hunfinished.outcomes ?_
  obtain ⟨rest, he, -⟩ := htold.connected hk hv
  rw [he, List.filter_cons_of_pos (Event.fits_of_dataless rfl)]
  exact List.cons_ne_nil _ _

/-- A step that takes a socket out of the table ends its story, or the client wished so. -/
theorem Turn.ends {y : Input κ} {kind : SocketKind} {frames : List Outgoing}
    (hturn : Turn True r y l frames r') (hb : Basis ReadsWithin r) (hopen : r.AllOpen)
    (hs : r.sessions[i]? = some s) (hv : s.sockets.get? k = some v)
    (htelling : Telling k kind s.settings.recvBuffer v t) (hreads : ReadsWithin r'.world.history)
    (hn : r'.socket? i k = none) :
    Finished k s.settings.recvBuffer kind (t.events ++ (y.share l i k).events) ∨
      y.Dismisses i k := by
  have hstory := (story_biography s.context k kind).turn hopen hb hs hv htelling hturn hreads
  have hsilenced := hstory.2 hn
  unfold Silenced at hsilenced
  rw [Traffic.dismissed_append, htelling.wanted, Bool.false_or] at hsilenced
  split at hsilenced
  · rename_i hdismissed
    exact .inr (hturn.dismisses hdismissed)
  · exact .inl hsilenced

/-- A step that leaves a socket in the table carries on its story, and takes no descriptor from
it. -/
theorem Turn.carriesOn {y : Input κ} {kind : SocketKind} {frames : List Outgoing}
    {v' : VirtualSocket}
    (hturn : Turn True r y l frames r') (hb : Basis ReadsWithin r) (hopen : r.AllOpen)
    (hs : r.sessions[i]? = some s) (hv : s.sockets.get? k = some v)
    (htelling : Telling k kind s.settings.recvBuffer v t) (hreads : ReadsWithin r'.world.history)
    (hv' : r'.socket? i k = some v') :
    Telling k kind s.settings.recvBuffer v' (t ++ y.share l i k) ∧
      (v.descriptor ≠ none → v'.descriptor ≠ none) := by
  have hsuffix : ∀ calls h, ReadsWithin (calls ++ h) → ReadsWithin h :=
    fun _ _ => History.Throughout.of_append
  have hstory := (story_biography s.context k kind).turn hopen hb hs hv htelling hturn hreads
  refine ⟨hstory.1 v' hv', fun hheld => ?_⟩
  have hkept := (held_biography s.context True hsuffix).turn (t := {}) hopen hb hs hv hheld hturn
    hreads
  exact hkept.1 v' hv'

theorem Turn.passage {y : Input κ} {kind : SocketKind}
    (hturn : Turn True r y l (r.step y).2 (r.step y).1) (hb : Basis ReadsWithin r)
    (hopen : r.AllOpen) (hs : r.sessions[i]? = some s) (hv : s.sockets.get? k = some v)
    (htelling : Telling k kind s.settings.recvBuffer v t)
    (hreads : ReadsWithin (r.step y).1.world.history) :
    Passage r i k v s.settings.recvBuffer (t.events.filter Event.fits) y := by
  have hik : r.socket? i k = some v := (socket?_of_session hs k).trans hv
  have ho := hopen i s hs k v hv
  have hsound := (hb.sound i k v hik).1
  have htold := hturn.told (i := i) (k := k) hb.formed hb.sound
  refine ⟨fun m hm => hturn.wordless hm, fun hstate hleft => ?_, fun hn => ?_⟩
  · obtain ⟨hk, hconnecting⟩ := (VirtualSocket.state_eq_connecting ho).1 hstate
    have hsilent := htelling.told.silent hk (hsound.connecting hconnecting).2
    have hheld : v.descriptor ≠ none := by
      intro hn
      rw [VirtualSocket.isConnecting, (hsound.bare hn).2.1] at hconnecting
      cases hconnecting
    rw [htelling.kind] at hk
    cases hv' : (r.step y).1.socket? i k with
    | none =>
      rcases hturn.ends hb hopen hs hv htelling hreads hv' with hfinished | hdismissed
      · rw [hsilent, hk] at hfinished
        rw [htold]
        exact .inl (hfinished.filter fun _ => Event.fits_of_dataless).outcomes
      · exact .inr hdismissed
    | some v' =>
      obtain ⟨htelling', hheld'⟩ := hturn.carriesOn hb hopen hs hv htelling hreads hv'
      obtain ⟨s', hs', hk'⟩ := socket?_eq_some.1 hv'
      have ho' := hturn.allOpen hopen i s' hs' k v' hk'
      obtain ⟨d, hd⟩ := Option.ne_none_iff_exists'.1 (hheld' hheld)
      have hnot : v'.connectStarted = none := by
        refine Option.not_isSome_iff_eq_none.1 fun hpending => hleft v' hv' ?_
        exact (VirtualSocket.state_eq_connecting ho').2 ⟨htelling'.kind.trans hk, hpending⟩
      have hconnected := ((hb.sound.turn hturn) i k v' hv').1.connected hd
        (htelling'.kind.trans hk) hnot
      have hone := outcomes_of_connected htelling' hk hconnected
      rw [Traffic.events_append, hsilent, List.nil_append, ← htold] at hone
      exact .inl hone
  · rcases hturn.ends hb hopen hs hv htelling hreads hn with hfinished | hdismissed
    · rw [htold, ← List.filter_append, htelling.kind]
      exact .inl (hfinished.filter fun _ => Event.fits_of_dataless)
    · exact .inr hdismissed

/-- Nothing is told of the number before a request for it is granted. -/
def Hushed (r : Relay κ) (i : Nat) (k : SocketId) (ys : List (Input κ)) : Prop :=
  r.told i k ys = [] ∨ ∃ zs z rest kind, ys = zs ++ z :: rest ∧
    Incarnation (r.run zs) i k kind z [] ∧ r.told i k (zs ++ [z]) = []

/-- A number that is not in use has no share in a step, and only a request for it can change
that. -/
theorem Turn.unused {x : Input κ} {frames : List Outgoing} (h : Turn settled r x l frames r')
    (hn : r.socket? i k = none) :
    x.share l i k = {} ∧ (r'.socket? i k = none ∨ ∃ kind, x.Opens i k kind) := by
  cases h with
  | @served _ s l s' w' j hx hs hc =>
    rw [Input.share_of_session hx]
    unfold Relay.share
    rw [socket?_put hs]
    by_cases hj : j = i
    · subst hj
      obtain ⟨hnone, hl⟩ := hc.absent ((socket?_of_session hs k).symm.trans hn)
      rw [if_pos rfl, if_pos rfl]
      exact ⟨hl, .inl hnone⟩
    · rw [if_neg hj, if_neg (Ne.symm hj)]
      exact ⟨rfl, .inl hn⟩
  | opened j m kind hx hs hc hz hm hs' =>
    rw [Input.share_nil, hs', socket?_store hs]
    refine ⟨rfl, ?_⟩
    split
    · rename_i hjm
      rw [hjm.1, hjm.2]
      exact .inr ⟨kind, hx⟩
    · exact .inl hn
  | entered settings =>
    rw [Input.share_nil, socket?_enter]
    exact ⟨rfl, .inl hn⟩
  | absent | unpolled | polled | elapsed =>
    rw [Input.share_nil]
    exact ⟨rfl, .inl hn⟩

theorem AllSound.hushed (hsound : r.AllSound) (hf : r.AllFormed) (hopen : r.AllOpen)
    (hn : r.socket? i k = none) (ys : List (Input κ)) : r.Hushed i k ys := by
  induction ys generalizing r with
  | nil => exact .inl rfl
  | cons y ys ih =>
    obtain ⟨l, hturn⟩ := step_turn False hopen y False.elim
    obtain ⟨hshare, hafter⟩ := hturn.unused hn
    have htold := hturn.told (i := i) (k := k) hf hsound
    rw [hshare] at htold
    cases hsocket : (r.step y).1.socket? i k with
    | none =>
      obtain hsilent | ⟨zs, z, rest, kind, rfl, hi, hsilent⟩ :=
        ih (hsound.turn hturn) (hf.turn hturn) (hturn.allOpen hopen) hsocket
      · refine .inl ?_
        rw [told_cons, htold, hsilent]
        rfl
      · refine .inr ⟨y :: zs, z, rest, kind, rfl, hi, ?_⟩
        rw [List.cons_append, told_cons, htold, hsilent]
        rfl
    | some v =>
      rcases hafter with hnone | ⟨kind, hopens⟩
      · cases hsocket.symm.trans hnone
      · refine .inr ⟨[], y, ys, kind, rfl, ⟨hopens, hn, ?_⟩, htold⟩
        exact Option.isSome_iff_exists.2 ⟨v, hsocket⟩

/-- A socket that begins its story is in the middle of it as long as it is there. -/
theorem Basis.telling (hb : Basis ReadsWithin r) (hopen : r.AllOpen) {kind : SocketKind}
    (hborn : r.socket? i k = some { id := k, kind }) {xs : List (Input κ)} (hk : r.keeps i k xs)
    (hreads : ReadsWithin (r.run xs).world.history) (hdecided : r.Decided xs) :
    ∃ s v t, (r.run xs).sessions[i]? = some s ∧ s.sockets.get? k = some v ∧
      Telling k kind s.settings.recvBuffer v t ∧ r.told i k xs = t.events.filter Event.fits := by
  obtain ⟨s₀, hs₀, -⟩ := socket?_eq_some.1 hborn
  have htold : VirtualSocket.Told s₀.settings.recvBuffer { id := k, kind } [] := by
    cases kind with
    | tcp => rfl
    | udp => exact delivered_nil
  have hbegun : Telling k kind s₀.settings.recvBuffer { id := k, kind } {} :=
    ⟨rfl, rfl, rfl, htold⟩
  obtain ⟨t, ht⟩ := chronicle_exists hopen (fun _ : True => hdecided) i k
  obtain ⟨s, v, hs, hv, hctx, htelling⟩ :=
    (story_biography s₀.context k kind).run_alive hopen hb hs₀
    ((socket?_of_session hs₀ k).symm.trans hborn) hbegun ht hk hreads
  rw [Traffic.nothing_append, ← hctx] at htelling
  exact ⟨s, v, t, hs, hv, htelling, ht.told hb.formed hb.sound⟩

/-- In an incarnation that goes on, the socket is in the middle of the story that was told of it. -/
theorem Incarnation.telling {xs : List (Input κ)} {x : Input κ} {kind : SocketKind}
    (hi : Incarnation r i k kind x xs) (hopen : r.AllOpen) (hb : Basis ReadsWithin r)
    (hreads : ReadsWithin (r.run (x :: xs)).world.history) (hdecided : r.Decided (x :: xs)) :
    ∃ s v t, (r.run (x :: xs)).sessions[i]? = some s ∧ s.sockets.get? k = some v ∧
      Telling k kind s.settings.recvBuffer v t ∧
        r.told i k (x :: xs) = t.events.filter Event.fits := by
  obtain ⟨l, hbirth⟩ := step_turn False hopen x False.elim
  have hopen₁ := hbirth.allOpen hopen
  have hb₁ := hb.turn hbirth (throughout_before hopen₁ hreads)
  obtain ⟨hborn, hsilent⟩ := hi.begins hopen
  obtain ⟨s, v, t, hs, hv, htelling, htold⟩ := hb₁.telling hopen₁ hborn hi.kept hreads hdecided.2
  refine ⟨s, v, t, hs, hv, htelling, ?_⟩
  rw [told_cons, htold]
  unfold told
  rw [written, hsilent]
  rfl

/-- The events about a socket follow the grammar of its kind in every incarnation, from the request
that is granted to the step that takes the socket out of the table, and no event names it again
before another request for it is granted. -/
theorem event_grammar {system : κ} {maxEvents : Nat} {before xs later : List (Input κ)}
    {x : Input κ} {kind : SocketKind} (hr : (start system maxEvents).run before = r)
    (hi : Incarnation r i k kind x xs)
    (hreads : ReadsWithin (r.run (x :: xs ++ later)).world.history)
    (hdecided : r.Decided (x :: xs ++ later)) :
    ∃ s v, (r.run (x :: xs)).sessions[i]? = some s ∧ s.sockets.get? k = some v ∧ v.kind = kind ∧
      Unfinished k s.settings.recvBuffer kind (r.told i k (x :: xs)) ∧
      (kind = .tcp → (r.told i k (x :: xs) ≠ [] ↔ v.state = .connected)) ∧
      ∀ y ys, later = y :: ys →
        Passage (r.run (x :: xs)) i k v s.settings.recvBuffer (r.told i k (x :: xs)) y ∧
        (((r.run (x :: xs)).step y).1.socket? i k = none →
          ((r.run (x :: xs)).step y).1.Hushed i k ys) := by
  have hopen : r.AllOpen := hr ▸ allOpen_run (allOpen_start system maxEvents) before
  have hopen₁ : (r.run (x :: xs)).AllOpen := allOpen_run hopen (x :: xs)
  rw [run_append] at hreads
  obtain ⟨hdecided, hdecided₁⟩ := decided_append hdecided
  have hreads₁ : ReadsWithin (r.run (x :: xs)).world.history := throughout_before hopen₁ hreads
  have hsuffix : ∀ calls h, ReadsWithin (calls ++ h) → ReadsWithin h :=
    fun _ _ => History.Throughout.of_append
  have hb : Basis ReadsWithin r := by
    have hreads₀ : ReadsWithin r.world.history := throughout_before hopen hreads₁
    rw [← hr] at hreads₀ ⊢
    exact (owned_start system maxEvents).basis.run (allOpen_start system maxEvents) hsuffix hreads₀
  have hb₁ : Basis ReadsWithin (r.run (x :: xs)) := hb.run hopen hsuffix hreads₁
  obtain ⟨s, v, t, hs, hv, htelling, hstory⟩ := hi.telling hopen hb hreads₁ hdecided
  have ho := hopen₁ i s hs k v hv
  have hsound := (hb₁.sound i k v ((socket?_of_session hs k).trans hv)).1
  refine ⟨s, v, hs, hv, htelling.kind, ?_, fun hk => ?_, ?_⟩
  · rw [hstory, ← htelling.kind, ← htelling.id]
    exact htelling.told.unfinished.filter fun _ => Event.fits_of_dataless
  · rw [hstory, hsound.state_eq_connected (htelling.kind.trans hk) ho]
    constructor
    · intro hne
      refine Bool.of_not_eq_false fun hnot => hne ?_
      rw [htelling.told.silent (htelling.kind.trans hk) hnot]
      rfl
    · intro hconnected hnil
      have hone := outcomes_of_connected htelling hk hconnected
      rw [hnil] at hone
      cases hone
  · intro y ys hlater
    rw [hlater] at hreads hdecided₁
    obtain ⟨l, hturn⟩ := step_turn True hopen₁ y fun _ => hdecided₁.1
    have hopen₂ := hturn.allOpen hopen₁
    have hreads₂ : ReadsWithin ((r.run (x :: xs)).step y).1.world.history :=
      throughout_before hopen₂ hreads
    rw [hstory]
    refine ⟨hturn.passage hb₁ hopen₁ hs hv htelling hreads₂, fun hn => ?_⟩
    exact (hb₁.sound.turn hturn).hushed (hb₁.formed.turn hturn) hopen₂ hn ys

theorem told_of_stay :
    ((start Loopback.listening 8).run [.enter {}]).told 0 1
        (Loopback.asks (.socket 1 0) :: Loopback.stay) = [.connected 1 true] ∧
      ((((start Loopback.listening 8).run [.enter {}]).run
        (Loopback.asks (.socket 1 0) :: Loopback.stay)).step Loopback.farewell).1.socket? 0 1 =
          none := by
  decide +kernel

theorem readsWithin_farewell : ReadsWithin (((start Loopback.listening 8).run [.enter {}]).run
    (Loopback.asks (.socket 1 0) :: Loopback.stay ++ [Loopback.farewell])).world.history := by
  decide +kernel

theorem decided_farewell : ((start Loopback.listening 8).run [.enter {}]).Decided
    (Loopback.asks (.socket 1 0) :: Loopback.stay ++ [Loopback.farewell]) := by
  decide +kernel

theorem event_grammar_visit : ∃ s v,
    (((start Loopback.listening 8).run [.enter {}]).run
      (Loopback.asks (.socket 1 0) :: Loopback.stay)).sessions[0]? = some s ∧
      s.sockets.get? 1 = some v ∧ Unfinished 1 s.settings.recvBuffer .tcp [.connected 1 true] ∧
      v.state = .connected ∧
      Passage (((start Loopback.listening 8).run [.enter {}]).run
        (Loopback.asks (.socket 1 0) :: Loopback.stay)) 0 1 v s.settings.recvBuffer
        [.connected 1 true] Loopback.farewell := by
  obtain ⟨htold, hgone⟩ := told_of_stay
  have h := event_grammar (r := (start Loopback.listening 8).run [.enter {}]) rfl
    Loopback.incarnation_visit readsWithin_farewell decided_farewell
  rw [htold] at h
  obtain ⟨s, v, hs, hv, -, hstory, hstate, hnext⟩ := h
  obtain ⟨hpassage, hhushed⟩ := hnext _ _ rfl
  exact ⟨s, v, hs, hv, hstory, (hstate rfl).1 (List.cons_ne_nil _ _), hpassage⟩

end SocketRelay.Relay
