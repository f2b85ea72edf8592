import SocketRelay.Proofs.Relay.Arrival
import SocketRelay.Proofs.Session.Registering

/-!
# Whom a note is meant for

A session lets a socket handle a note if the note's token is the socket's. Descriptors and socket
numbers are used again, generations wrap around, and a note may have waited for long. Still, the
note is about the very registration that gave the socket its token, unless all generations have been
used since that registration: the socket has had the token from then on, through the poll that
brought the note, until now. A note for anyone else is dropped.
-/
namespace SocketRelay
open SocketRelay.Action (Ends Asks)
open History (registrations issued)

theorem eq_or_before_or_after {α : Type} {as bs cs ds : List α} {a b : α}
    (h : as ++ a :: cs = bs ++ b :: ds) : as = bs ∧ a = b ∧ cs = ds ∨
      (∃ ms, bs = as ++ a :: ms ∧ cs = ms ++ b :: ds) ∨
        ∃ ms, as = bs ++ b :: ms ∧ ds = ms ++ a :: cs := by
  rcases List.append_eq_append_iff.1 h with ⟨ms, rfl, hrest⟩ | ⟨ms, rfl, hrest⟩
  · cases ms with
    | nil =>
      cases hrest
      exact .inl ⟨(List.append_nil _).symm, rfl, rfl⟩
    | cons m ms =>
      cases hrest
      exact .inr (.inl ⟨ms, rfl, rfl⟩)
  · cases ms with
    | nil =>
      cases hrest
      exact .inl ⟨List.append_nil _, rfl, rfl⟩
    | cons m ms =>
      cases hrest
      exact .inr (.inr ⟨ms, rfl, rfl⟩)

namespace Session
variable {κ : Type} [OperatingSystem κ]

/-- The session and the world once a drain has come to so many notes. -/
def drained (s : Session) (n : Nat) (w : World κ) : Session × World κ :=
  ((s.drainUpTo n w).1.1.session, (s.drainUpTo n w).2)

theorem drained_of_empty {s : Session} {w : World κ} (hq : (w.mailbox s.mailbox).queue = [])
    (n : Nat) : s.drained n w = (s, w) := by
  unfold drained
  cases n with
  | zero => rfl
  | succ n =>
    unfold drainUpTo
    simp only [bind, StateT.bind, takeNote_eq, hq]
    rfl

theorem drained_succ {s : Session} {w : World κ} {note : Readiness} {queue : List Readiness}
    (hq : (w.mailbox s.mailbox).queue = note :: queue) (n : Nat) : s.drained (n + 1) w =
      (s.onReady note (w.withQueue s.mailbox queue)).1.session.drained n
        (s.onReady note (w.withQueue s.mailbox queue)).2 := by
  unfold drained
  rw [drainUpTo]
  simp only [bind, StateT.bind, takeNote_eq, hq]
  rfl

theorem drained_course {s s' : Session} {n : Nat} {w w' : World κ} (ho : s.AllOpen)
    (hd : s.drained n w = (s', w')) :
    (∃ l, Course False s w l s' w') ∧ registrations w'.history ≤ registrations w.history := by
  have hruns : (s.drainUpTo n).Ends w fun r w' => ∃ l, Runs False s w l r.1 w' ∧ l.Unasked :=
    drainUpTo_runs False ho False.elim
  obtain ⟨l, hl, -⟩ := hruns
  cases hd
  exact ⟨⟨l, hl.course⟩, s.asks_drainUpTo n w⟩

end Session

namespace Relay
variable {κ : Type} [OperatingSystem κ] {r : Relay κ} {i : Nat} {k : SocketId} {token : Token}
variable {xs : List (Input κ)}

omit [OperatingSystem κ] in
theorem registrations_serve_le {n : Nat} {operation : Session → Action κ Session.Reply}
    (h : ∀ s, (operation s).Asks n) (r : Relay κ) (i : Nat) :
    registrations (r.serve i operation).1.world.history ≤
      registrations r.world.history + n := by
  cases hs : r.sessions[i]? with
  | none =>
    unfold serve
    rw [hs]
    exact Nat.le_add_right _ n
  | some s =>
    rw [serve_of_session hs]
    exact h s r.world

theorem registrations_step_le (r : Relay κ) (x : Input κ) :
    registrations (r.step x).1.world.history ≤ registrations r.world.history + 1 := by
  cases x with
  | enter | elapse => exact Nat.le_succ _
  | frame i bytes => exact registrations_serve_le (fun s => s.asks_onMessage bytes) r i
  | drain i =>
    refine registrations_serve_le (fun s => ?_) r i
    exact (s.asks_drainMailbox.bind fun _ => Asks.pure _ 0).mono (Nat.zero_le 1)
  | expire i now order =>
    refine registrations_serve_le (fun s => ?_) r i
    exact ((s.asks_expireStalledConnects now order).bind fun _ => Asks.pure _ 0).mono
      (Nat.zero_le 1)
  | leave i order =>
    exact registrations_serve_le (fun s => (s.asks_close order).mono (Nat.zero_le 1)) r i
  | poll =>
    refine Nat.le_succ_of_le (Nat.le_of_eq ?_)
    change registrations (Reactor.pollOnce r.world).2.history = _
    rcases Reactor.pollOnce_ends (w := r.world) with ⟨e, hm⟩ | ⟨reports, w₁, hm, hd⟩
    · rw [hm.history]
      rfl
    · obtain ⟨calls, hcalls, hpolling⟩ := hd.round hm
      rw [hcalls, (polling_unregistered hpolling).registrations_eq]

theorem registrations_run_le (ho : r.AllOpen) (xs ys : List (Input κ)) :
    registrations (r.run xs).world.history ≤ registrations (r.run (xs ++ ys)).world.history := by
  obtain ⟨calls, hc⟩ := history_run (allOpen_run ho xs) ys
  rw [run_append, hc, History.registrations_append]
  exact Nat.le_add_left _ _

/-- A token that a socket has after a run it has had all along, or it was granted in the run. -/
theorem Counted.bears_run (h : r.Counted) (ho : r.AllOpen) (hb : (r.run xs).Bears i k token) :
    (∀ ys, ys <+: xs → (r.run ys).Bears i k token) ∨
      ∃ before x after, xs = before ++ x :: after ∧
        Granted (r.run before) (r.run (before ++ [x])) i k token ∧
        ∀ ys, ys <+: after → (r.run (before ++ x :: ys)).Bears i k token := by
  induction xs generalizing r with
  | nil =>
    refine .inl fun ys hys => ?_
    rw [List.prefix_nil.1 hys]
    exact hb
  | cons x xs ih =>
    obtain ⟨l, ht⟩ := step_turn False ho x False.elim
    obtain ⟨hcounted, hsince⟩ := h.turn ht
    rcases ih hcounted (ht.allOpen ho) hb with hall | ⟨before, y, after, rfl, hg, hkept⟩
    · rcases hsince.tokens i k token (hall [] List.nil_prefix) with hb | hg
      · refine .inl fun ys hys => ?_
        cases ys with
        | nil => exact hb
        | cons y ys =>
          obtain ⟨rfl, hrest⟩ := List.cons_prefix_cons.1 hys
          exact hall ys hrest
      · exact .inr ⟨[], x, xs, rfl, hg, hall⟩
    · exact .inr ⟨x :: before, y, after, rfl, hg, hkept⟩

/-- A row that is there after a run has been there all along, or it was added in the run. -/
theorem Counted.enrolled_run (h : r.Counted) (ho : r.AllOpen)
    (he : (r.run xs).Enrolled i k token) :
    r.Enrolled i k token ∧ issued token (r.run xs).world.history = issued token r.world.history ∨
      ∃ before x after, xs = before ++ x :: after ∧
        Granted (r.run before) (r.run (before ++ [x])) i k token ∧
        issued token (r.run xs).world.history =
          issued token (r.run (before ++ [x])).world.history := by
  induction xs generalizing r with
  | nil => exact .inl ⟨he, rfl⟩
  | cons x xs ih =>
    obtain ⟨l, ht⟩ := step_turn False ho x False.elim
    obtain ⟨hcounted, hsince⟩ := h.turn ht
    rcases ih hcounted (ht.allOpen ho) he with ⟨he, hsame⟩ | ⟨before, y, after, rfl, hg, hsame⟩
    · rcases hsince.rows i k token he with ⟨he, hsame'⟩ | hg
      · exact .inl ⟨he, hsame.trans hsame'⟩
      · exact .inr ⟨[], x, xs, rfl, hg, hsame⟩
    · exact .inr ⟨x :: before, y, after, rfl, hg, hsame⟩

/-- One step of a run makes the registration of this number and no other one; by it a socket that
had no token gets one, and has it through all later steps. -/
structure Endowed (r₀ : Relay κ) (before : List (Input κ)) (x : Input κ) (later : List (Input κ))
    (i : Nat) (k : SocketId) (token : Token) (n : Nat) : Prop where
  bare : (r₀.run before).Bare i k
  number : registrations (r₀.run before).world.history + 1 = n
  single : registrations (r₀.run (before ++ [x])).world.history = n
  granted : issued token (r₀.run (before ++ [x])).world.history = n
  kept : ∀ ys, ys <+: later → (r₀.run (before ++ x :: ys)).Bears i k token

/-- The note comes from a poll in the run, and the registration that the token stood for then is the
one by which the socket got the token that it has had ever since. -/
def Meant (r₀ : Relay κ) (xs : List (Input κ)) (i : Nat) (r : Relay κ) (note : Readiness) : Prop :=
  ∃ before x mid after, xs = before ++ x :: (mid ++ .poll :: after) ∧
    r = r₀.run (before ++ x :: mid) ∧
    Endowed r₀ before x (mid ++ .poll :: after) i note.socket note.token
      (issued note.token r.world.history)

theorem Granted.endowed {r₀ : Relay κ} {before later : List (Input κ)} {x : Input κ}
    (hg : Granted (r₀.run before) (r₀.run (before ++ [x])) i k token)
    (hkept : ∀ ys, ys <+: later → (r₀.run (before ++ x :: ys)).Bears i k token) :
    Endowed r₀ before x later i k token
      (issued token (r₀.run (before ++ [x])).world.history) := by
  obtain ⟨hbare, hlt⟩ := hg
  have hle := History.issued_le token (r₀.run (before ++ [x])).world.history
  have hstep : registrations (r₀.run (before ++ [x])).world.history ≤
      registrations (r₀.run before).world.history + 1 := by
    rw [run_append]
    exact registrations_step_le (r₀.run before) x
  exact ⟨hbare, by omega, by omega, rfl, hkept⟩

omit [OperatingSystem κ] in
/-- A token that is granted again has waited for all other generations. -/
theorem Counted.granted_apart {r₁ r₂ : Relay κ} (h : r.Counted) (h₂ : r₂.Counted)
    (hissued : 0 < issued token r.world.history)
    (hle : registrations r.world.history ≤ registrations r₁.world.history)
    (hg : Granted r₁ r₂ i k token) :
    issued token r.world.history + UInt32.size ≤ issued token r₂.world.history := by
  have hlt : issued token r.world.history < issued token r₂.world.history :=
    Nat.lt_of_le_of_lt (Nat.le_trans (History.issued_le token _) hle) hg.2
  have hgeneration := (h.numbered.generation (Nat.ne_of_gt hissued)).symm.trans
    (h₂.numbered.generation (Nat.ne_of_gt (Nat.lt_trans hissued hlt)))
  refine Nat.le_of_not_lt fun hnear => Nat.ne_of_lt hlt ?_
  exact eq_of_generation hgeneration (Nat.le_of_lt hlt) hnear

/-- A note with the token that a socket has is meant for it, if not all generations have been used
since the registration that the note is about. -/
theorem meant_of_bears {system : κ} {maxEvents : Nat} {ys zs : List (Input κ)} {note : Readiness}
    (he : ((start system maxEvents).run ys).Enrolled i note.socket note.token)
    (hb : ((start system maxEvents).run (ys ++ .poll :: zs)).Bears i note.socket note.token)
    (hlt : registrations ((start system maxEvents).run (ys ++ .poll :: zs)).world.history <
      issued note.token ((start system maxEvents).run ys).world.history + UInt32.size) :
    Meant (start system maxEvents) (ys ++ .poll :: zs) i
      ((start system maxEvents).run ys) note := by
  have ho := allOpen_start system maxEvents
  have hcounted := counted_start system maxEvents
  have hunlisted : ¬ (start system maxEvents).Enrolled i note.socket note.token := by
    rintro ⟨interest, hrow⟩
    cases hrow
  have hunborn : ¬ (start system maxEvents).Bears i note.socket note.token := by
    rintro ⟨v, hv, -⟩
    cases hv
  obtain ⟨before', x', mid, rfl, hg', hsame⟩ :=
    (hcounted.enrolled_run ho he).resolve_left fun h => hunlisted h.1
  obtain ⟨before, x, after, hsplit, hg, hkept⟩ :=
    (hcounted.bears_run ho hb).resolve_left fun h => hunborn (h [] List.nil_prefix)
  rw [List.append_assoc, List.cons_append] at hsplit hb hlt ⊢
  rcases eq_or_before_or_after hsplit with ⟨rfl, rfl, rfl⟩ | ⟨ms, rfl, hrest⟩ | ⟨ms, rfl, rfl⟩
  · refine ⟨before', x', mid, zs, rfl, rfl, ?_⟩
    rw [hsame]
    exact hg'.endowed hkept
  · have hle := registrations_run_le ho (before' ++ [x']) ms
    have hlate := registrations_run_le ho (before' ++ x' :: ms ++ [x]) after
    rw [← List.append_cons] at hle hlate
    rw [hsplit, hsame] at hlt
    have hfar := (hcounted.run ho (before' ++ [x'])).granted_apart (hcounted.run ho _)
      (Nat.zero_lt_of_lt hg'.2) hle hg
    have hissued := History.issued_le note.token
      ((start system maxEvents).run (before' ++ x' :: ms ++ [x])).world.history
    exact (Nat.not_le_of_lt hlt (Nat.le_trans hfar (Nat.le_trans hissued hlate))).elim
  · exact ((hkept ms (List.prefix_append _ _)).not_bare hg'.1).elim

/-- The note was brought by the poll of this relay, and behind it these notes have arrived. -/
def Brought (r₀ : Relay κ) (xs : List (Input κ)) (i : Nat) (r : Relay κ) (note : Readiness)
    (behind : List Readiness) : Prop :=
  r.Reported i note ∧ ∃ earlier later, r₀.arrivals i xs = earlier ++ (r, note) :: later ∧
    behind = later.map Prod.snd

theorem brought_of_suffix {system : κ} {maxEvents : Nat} {note : Readiness}
    {behind : List Readiness}
    (h : note :: behind <:+ (((start system maxEvents).run xs).world.mailbox i).queue) :
    ∃ r, Brought (start system maxEvents) xs i r note behind := by
  obtain ⟨gone, hgone⟩ := h.trans (queue_suffix_arrivals (allOpen_start system maxEvents) xs i)
  obtain ⟨earlier, rest, harrivals, -, hrest⟩ := List.map_eq_append_iff.1 hgone.symm
  obtain ⟨⟨r, note'⟩, later, rfl, rfl, rfl⟩ := List.map_eq_cons_iff.1 hrest
  have hmem : (r, note') ∈ (start system maxEvents).arrivals i xs :=
    harrivals ▸ List.mem_append_right earlier List.mem_cons_self
  obtain ⟨ys, zs, -, -, hreported⟩ := poll_of_mem_arrivals hmem
  exact ⟨r, hreported, earlier, later, harrivals, rfl⟩

variable {s s' : Session} {n : Nat} {w w' : World κ}

theorem Counted.bears_drained (h : r.Counted) (ho : r.AllOpen) (hs : r.sessions[i]? = some s)
    (hd : s.drained n r.world = (s', w)) {v : VirtualSocket} (hv : s'.sockets.get? k = some v)
    (ht : v.token = some token) :
    r.Bears i k token ∧ registrations r.world.history ≤ registrations w.history := by
  obtain ⟨⟨l, hc⟩, hasked⟩ := Session.drained_course (ho i s hs) hd
  have hsince := (h.course hs hc).within.toSince
  have hbears : (r.put i s' w).Bears i k token := by
    refine ⟨v, ?_, ht⟩
    rw [socket?_put hs, if_pos rfl, hv]
  refine ⟨(hsince.tokens i k token hbears).resolve_right fun hg => ?_, hsince.registrations_le⟩
  exact Nat.not_lt_of_le (Nat.le_trans (History.issued_le token w.history) hasked) hg.2

end Relay

namespace Loopback
open Relay (Input start)

/-- The client closes its stream and opens another one under the same number, which gets the same
descriptor, before it has been told of the first. -/
def reopening : List (Input Network) :=
  arrival ++ [asks (.connect 1 [127, 0, 0, 1] 23911), .poll, farewell, asks (.socket 1 0),
    asks (.connect 1 [127, 0, 0, 1] 23911), .poll]

def reopened : Relay Network := (start listening 8).run reopening

/-- The note on the first stream, and that on the second. -/
def lateNote : Readiness := ⟨1, Token.pack 3 1, { write := true }⟩
def timelyNote : Readiness := ⟨1, Token.pack 3 2, { write := true }⟩

end Loopback

namespace Relay
variable {κ : Type} [OperatingSystem κ] {i : Nat} {xs : List (Input κ)}
variable {s s' : Session} {n : Nat} {w w' : World κ}

/-- However a run went and however far a drain has come, the next note is the report of one poll. A
socket that handles it is the one it is meant for, unless generations have come again since the
registration that it is about. A note that no socket handles changes nothing. -/
theorem readiness_meant {system : κ} {maxEvents : Nat} {note : Readiness}
    (hs : ((start system maxEvents).run xs).sessions[i]? = some s)
    (hd : s.drained n ((start system maxEvents).run xs).world = (s', w))
    (hn : takeNote s'.mailbox w = (some note, w')) :
    ∃ r, Brought (start system maxEvents) xs i r note (w'.mailbox i).queue ∧
      (∀ v, s'.handler? note = some v →
        registrations w'.history < issued note.token r.world.history + UInt32.size →
        Meant (start system maxEvents) xs i r note) ∧
      (s'.handler? note = none → s'.onReady note w' = ({ session := s' }, w')) := by
  have ho := allOpen_run (allOpen_start system maxEvents) xs
  have hcounted := (counted_start system maxEvents).run (allOpen_start system maxEvents) xs
  obtain ⟨⟨l, hc⟩, -⟩ := Session.drained_course (ho i s hs) hd
  have hmailbox : s'.mailbox = i :=
    (congrArg Session.mailbox hc.fixed).trans (hcounted.formed i s hs).mailbox
  rw [Session.takeNote_eq, hmailbox] at hn
  split at hn
  · cases hn
  rename_i behind hq
  cases hn
  have hbehind : ((w.withQueue i behind).mailbox i).queue = behind := by
    rw [World.mailbox_withQueue, if_pos rfl]
  obtain ⟨r, hbrought⟩ := brought_of_suffix (hq ▸ hc.queue_suffix i)
  refine ⟨r, hbehind.symm ▸ hbrought, fun v hv hlt => ?_, fun hnone => ?_⟩
  · obtain ⟨⟨bits, -, -, hrow⟩, earlier, later, harrivals, -⟩ := hbrought
    have hmem : (r, note) ∈ (start system maxEvents).arrivals i xs :=
      harrivals ▸ List.mem_append_right earlier List.mem_cons_self
    obtain ⟨ys, zs, rfl, rfl, -⟩ := poll_of_mem_arrivals hmem
    obtain ⟨-, hsocket, htoken⟩ := Session.handler?_eq_some hv
    obtain ⟨hbears, hle⟩ := hcounted.bears_drained ho hs hd hsocket htoken
    exact meant_of_bears hrow hbears (Nat.lt_of_le_of_lt hle hlt)
  · rw [Session.onReady_eq, hnone]
    rfl

/-- The first note on a reopened stream is dropped, the second is handled. -/
theorem readiness_meant_reopened : ∃ s s' w w₀ w₁ r,
    Loopback.reopened.sessions[0]? = some s ∧
    takeNote s.mailbox Loopback.reopened.world = (some Loopback.lateNote, w₀) ∧
    s.onReady Loopback.lateNote w₀ = ({ session := s }, w₀) ∧
    s.drained 1 Loopback.reopened.world = (s', w) ∧
    takeNote s'.mailbox w = (some Loopback.timelyNote, w₁) ∧
    Meant (start Loopback.listening 8) Loopback.reopening 0 r Loopback.timelyNote := by
  obtain ⟨s, hs⟩ : ∃ s, Loopback.reopened.sessions[0]? = some s :=
    Option.isSome_iff_exists.1 (by decide +kernel)
  have hlate : (Loopback.reopened.sessions[0]?.map fun s =>
      ((takeNote s.mailbox Loopback.reopened.world).1, s.handler? Loopback.lateNote)) =
        some (some Loopback.lateNote, none) := by
    decide +kernel
  have htimely : (Loopback.reopened.sessions[0]?.map fun s =>
      let (s', w) := s.drained 1 Loopback.reopened.world
      ((takeNote s'.mailbox w).1, (s'.handler? Loopback.timelyNote).isSome,
        registrations (takeNote s'.mailbox w).2.history)) =
        some (some Loopback.timelyNote, true, 2) := by
    decide +kernel
  rw [hs] at hlate htimely
  obtain ⟨hn₀, hdropped⟩ := Prod.mk.inj (Option.some.inj hlate)
  obtain ⟨hn₁, hrest⟩ := Prod.mk.inj (Option.some.inj htimely)
  obtain ⟨hhandled, hcount⟩ := Prod.mk.inj hrest
  obtain ⟨v, hv⟩ := Option.isSome_iff_exists.1 hhandled
  obtain ⟨-, -, -, hdrop⟩ := readiness_meant hs (n := 0) rfl (Prod.ext hn₀ rfl)
  obtain ⟨r, -, hmeant, -⟩ := readiness_meant hs (n := 1) rfl (Prod.ext hn₁ rfl)
  refine ⟨s, _, _, _, _, r, hs, Prod.ext hn₀ rfl, hdrop hdropped, rfl, Prod.ext hn₁ rfl,
    hmeant v hv ?_⟩
  have hsoon : 2 < issued Loopback.timelyNote.token r.world.history + UInt32.size :=
    Nat.lt_of_lt_of_le (by decide) (Nat.le_add_left _ _)
  exact Nat.lt_of_le_of_lt (Nat.le_of_eq hcount) hsoon

end Relay

end SocketRelay
