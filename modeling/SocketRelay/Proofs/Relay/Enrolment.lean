import SocketRelay.Proofs.Relay.Ownership
import SocketRelay.Proofs.Socket.Enrolment

/-!
# Tokens and rows from one state to the next

A token comes from a registration and from nowhere else. Between two states of a relay a socket
keeps its token or loses it, unless a registration in between was granted to a socket that had none;
and a row of the table has been there before, unless it belongs to such a socket. No assumption is
made on the system.
-/
namespace SocketRelay
open History (registrations issued Numbered)
open VirtualSocket (Deed Conduct Enrolment)

namespace Relay
variable {κ : Type} {r r' r'' : Relay κ} {i : Nat} {s s' : Session} {k : SocketId}
variable {v v' : VirtualSocket} {w' : World κ} {token : Token}

/-- The socket has the token. -/
def Bears (r : Relay κ) (i : Nat) (k : SocketId) (token : Token) : Prop :=
  ∃ v, r.socket? i k = some v ∧ v.token = some token

/-- The socket is open and has no token. -/
def Bare (r : Relay κ) (i : Nat) (k : SocketId) : Prop :=
  ∃ v, r.socket? i k = some v ∧ v.closed = false ∧ v.token = none

/-- The token is that of a row, and the row is that of the socket. -/
def Enrolled (r : Relay κ) (i : Nat) (k : SocketId) (token : Token) : Prop :=
  ∃ interest, r.world.reactor.table.get? token.descriptor = some ⟨token, k, interest, i⟩

/-- The socket had no token, and then this token was granted. -/
def Granted (r r' : Relay κ) (i : Nat) (k : SocketId) (token : Token) : Prop :=
  r.Bare i k ∧ registrations r.world.history < issued token r'.world.history

/-- Tokens and rows of the second state, by what they were in the first. -/
structure Since (r r' : Relay κ) : Prop where
  history : ∃ calls, r'.world.history = calls ++ r.world.history
  tokens : ∀ i k token, r'.Bears i k token → r.Bears i k token ∨ Granted r r' i k token
  rows : ∀ i k token, r'.Enrolled i k token →
    r.Enrolled i k token ∧ issued token r'.world.history = issued token r.world.history ∨
      Granted r r' i k token

theorem Bears.not_bare (h : r.Bears i k token) : ¬ r.Bare i k := by
  intro hbare
  obtain ⟨v, hv, ht⟩ := h
  obtain ⟨u, hu, -, hn⟩ := hbare
  cases hu.symm.trans hv
  cases hn.symm.trans ht

theorem Since.refl (r : Relay κ) : Since r r :=
  ⟨⟨[], rfl⟩, fun _ _ _ => .inl, fun _ _ _ h => .inl ⟨h, rfl⟩⟩

theorem Since.registrations_le (h : Since r r') :
    registrations r.world.history ≤ registrations r'.world.history := by
  obtain ⟨calls, hc⟩ := h.history
  rw [hc, History.registrations_append]
  exact Nat.le_add_left _ _

theorem Since.issued_le (h : Since r r') (token : Token) :
    issued token r.world.history ≤ issued token r'.world.history := by
  obtain ⟨calls, hc⟩ := h.history
  rw [hc]
  exact History.issued_le_append token calls _

/-- The sockets that have no token afterwards are open and without one from the beginning. -/
structure Within (r r' : Relay κ) : Prop extends Since r r' where
  bare : ∀ i k, r'.Bare i k → r.Bare i k

theorem Within.refl (r : Relay κ) : Within r r := ⟨.refl r, fun _ _ => id⟩

theorem Within.trans (h : Within r r') (h' : Within r' r'') : Within r r'' := by
  have hlater : ∀ {i k token}, Granted r' r'' i k token → Granted r r'' i k token := by
    intro i k token hg
    exact ⟨h.bare i k hg.1, Nat.lt_of_le_of_lt h.registrations_le hg.2⟩
  refine ⟨⟨?_, fun i k token ht => ?_, fun i k token ht => ?_⟩, fun i k hb => ?_⟩
  · obtain ⟨calls, hc⟩ := h.history
    obtain ⟨more, hm⟩ := h'.history
    exact ⟨more ++ calls, by rw [hm, hc, List.append_assoc]⟩
  · rcases h'.tokens i k token ht with ht | hg
    · exact (h.tokens i k token ht).imp_right fun hg =>
        ⟨hg.1, Nat.lt_of_lt_of_le hg.2 (h'.issued_le token)⟩
    · exact .inr (hlater hg)
  · rcases h'.rows i k token ht with ⟨ht, hsame⟩ | hg
    · rcases h.rows i k token ht with ⟨ht, hsame'⟩ | hg
      · exact .inl ⟨ht, hsame.trans hsame'⟩
      · exact .inr ⟨hg.1, Nat.lt_of_lt_of_eq hg.2 hsame.symm⟩
    · exact .inr (hlater hg)
  · exact h.bare i k (h'.bare i k hb)

/-- The reactor counts the registrations, and tokens carry their numbers. -/
structure Counted (r : Relay κ) : Prop where
  sound : r.AllSound
  formed : r.AllFormed
  next : r.world.reactor.nextGeneration = UInt32.ofNat (registrations r.world.history + 1)
  numbered : Numbered r.world.history

/-- The relay counts on, and tokens come from registrations. -/
structure Followed (r r' : Relay κ) : Prop where
  counted : r'.Counted
  within : Within r r'

theorem Counted.followed (h : r.Counted) : Followed r r := ⟨h, .refl r⟩

theorem Followed.trans (h : Followed r r') (h' : Followed r' r'') : Followed r r'' :=
  ⟨h'.counted, h.within.trans h'.within⟩

/-- Sockets have only gone, the reactor is as before, and nothing has been registered. -/
theorem Counted.quiet (h : r.Counted) (hsound : r'.AllSound) (hformed : r'.AllFormed)
    (hs : ∀ i k v, r'.socket? i k = some v → r.socket? i k = some v)
    (hr : r'.world.reactor = r.world.reactor) (calls : History)
    (hh : r'.world.history = calls ++ r.world.history) (hc : History.Unregistered calls) :
    Followed r r' := by
  refine ⟨⟨hsound, hformed, ?_, ?_⟩, ⟨⟨calls, hh⟩, fun i k token hb => .inl ?_,
    fun i k token he => .inl ⟨?_, ?_⟩⟩, fun i k hb => ?_⟩
  · rw [hr, hh, hc.registrations_eq, h.next]
  · rw [hh]
    exact hc.numbered h.numbered
  · obtain ⟨v, hv, ht⟩ := hb
    exact ⟨v, hs i k v hv, ht⟩
  · obtain ⟨interest, he⟩ := he
    exact ⟨interest, hr ▸ he⟩
  · rw [hh, hc.issued_eq]
  · obtain ⟨v, hv, hopen, ht⟩ := hb
    exact ⟨v, hs i k v hv, hopen, ht⟩

theorem exists_of_store (hs : r.sessions[i]? = some s) {p : VirtualSocket → Prop} {j : Nat}
    {m : SocketId} (h : ∃ u, (r.put i (s.store k v') w').socket? j m = some u ∧ p u) :
    (j = i ∧ m = k) ∧ p v' ∨ ∃ u, r.socket? j m = some u ∧ p u := by
  obtain ⟨u, hu, hp⟩ := h
  rw [socket?_store hs] at hu
  split at hu
  · rename_i hjm
    cases hu
    exact .inl ⟨hjm, hp⟩
  · exact .inr ⟨u, hu, hp⟩

/-- A socket that keeps what it holds, or is closed. -/
theorem within_of_retains (hs : r.sessions[i]? = some s) (hv : s.sockets.get? k = some v)
    (hretains : VirtualSocket.Retains v v') (hrows : r.world.reactor.Inherits w'.reactor)
    {calls : History} (hh : w'.history = calls ++ r.world.history)
    (hc : ∀ x ∈ calls, x.granted? = none) : Within r (r.put i (s.store k v') w') := by
  have hik : r.socket? i k = some v := (socket?_of_session hs k).trans hv
  refine ⟨⟨⟨calls, hh⟩, fun j m token hb => .inl ?_, fun j m token he => .inl ⟨?_, ?_⟩⟩,
    fun j m hb => ?_⟩
  · rcases exists_of_store hs hb with ⟨⟨rfl, rfl⟩, ht⟩ | hb
    · rcases hretains with rfl | ⟨-, hsame, -⟩
      · cases ht
      · exact ⟨v, hik, hsame ▸ ht⟩
    · exact hb
  · obtain ⟨interest, he⟩ := he
    obtain ⟨interest', he'⟩ := hrows _ _ he
    exact ⟨interest', he'⟩
  · change issued token w'.history = _
    rw [hh]
    exact History.issued_append_of_ungranted hc token _
  · rcases exists_of_store hs hb with ⟨⟨rfl, rfl⟩, hopen, ht⟩ | hb
    · rcases hretains with rfl | ⟨-, hsame, hsame'⟩
      · cases hopen
      · exact ⟨v, hik, hsame' ▸ hopen, hsame ▸ ht⟩
    · exact hb

/-- A socket that had no token is given one, and the table a row. -/
theorem within_of_granted (hs : r.sessions[i]? = some s) (hv : s.sockets.get? k = some v)
    (hopen : v.closed = false) (hbare : v.token = none) (ht : v'.token = some token)
    {interest : Interest} (hrow : w'.reactor.table =
      r.world.reactor.table.insert token.descriptor ⟨token, k, interest, i⟩)
    {x : Exchange} {lead : History} (hx : x.granted? = some token)
    (hlead : History.Unregistered lead) (hh : w'.history = x :: lead ++ r.world.history) :
    Within r (r.put i (s.store k v') w') := by
  have hik : r.socket? i k = some v := (socket?_of_session hs k).trans hv
  have hnumber : ∀ other, issued other w'.history = if other = token then
      registrations r.world.history + 1 else issued other r.world.history := by
    intro other
    rw [hh, List.cons_append, issued, hx, History.registrations_cons_of_granted? hx,
      hlead.registrations_eq, hlead.issued_eq]
    simp only [Option.some.injEq, eq_comm]
  have hgranted : Granted r (r.put i (s.store k v') w') i k token := by
    refine ⟨⟨v, hik, hopen, hbare⟩, ?_⟩
    change _ < issued token w'.history
    rw [hnumber, if_pos rfl]
    exact Nat.lt_succ_self _
  refine ⟨⟨⟨_, hh⟩, fun j m other hb => ?_, fun j m other he => ?_⟩, fun j m hb => ?_⟩
  · rcases exists_of_store hs hb with ⟨⟨rfl, rfl⟩, hother⟩ | hb
    · cases ht.symm.trans hother
      exact .inr hgranted
    · exact .inl hb
  · obtain ⟨interest', he⟩ := he
    change w'.reactor.table.get? _ = _ at he
    rw [hrow, Table.get?_insert] at he
    split at he
    · cases he
      exact .inr hgranted
    · rename_i hd
      refine .inl ⟨⟨interest', he⟩, ?_⟩
      change issued other w'.history = _
      rw [hnumber, if_neg fun heq => hd (congrArg Token.descriptor heq)]
  · rcases exists_of_store hs hb with ⟨-, -, hother⟩ | hb
    · cases ht.symm.trans hother
    · exact hb

theorem Counted.deed (h : r.Counted) {settled steady : Prop} {calls : List Exchange} {t : Traffic}
    {rx : Reactor} (hs : r.sessions[i]? = some s) (hv : s.sockets.get? k = some v)
    (hd : Deed s.context settled steady v r.world.reactor calls t v' rx)
    (hm : r.world.Moved calls rx w') : Followed r (r.put i (s.store k v') w') := by
  obtain ⟨hsound, hid⟩ := h.sound i k v ((socket?_of_session hs k).trans hv)
  have he := hd.enrolment
  refine ⟨⟨h.sound.deed hs hv hd, h.formed.put hs ((h.formed i s hs).store hv), ?_, ?_⟩, ?_⟩
  · change w'.reactor.nextGeneration = UInt32.ofNat (registrations w'.history + 1)
    rw [hm.reactor, hm.history]
    exact he.next h.next
  · change Numbered w'.history
    rw [hm.history]
    exact he.numbered h.next h.numbered
  · cases he with
    | none hc hnext hretains hrows =>
      refine within_of_retains hs hv hretains (hm.reactor ▸ hrows) hm.history fun x hx => ?_
      exact Exchange.granted?_eq_none (hc x hx)
    | refused d bits token e lead hd hopen hl hc hv' hr =>
      refine within_of_retains hs hv (hv' ▸ .refl v) ?_ hm.history ?_
      · rw [hm.reactor, hr]
        exact .refl r.world.reactor
      · rw [hc]
        refine List.forall_mem_cons.2 ⟨rfl, List.forall_mem_cons.2 ⟨rfl, fun x hx => ?_⟩⟩
        exact Exchange.granted?_eq_none (hl x hx)
    | granted d bits interest lead hd hopen hl hc ht hr =>
      rw [hc] at hm
      have hrow : w'.reactor.table = r.world.reactor.table.insert
          (Token.pack d r.world.reactor.nextGeneration).descriptor
          ⟨Token.pack d r.world.reactor.nextGeneration, k, interest, i⟩ := by
        rw [hm.reactor, hr, hid, show s.context.mailbox = i from (h.formed i s hs).mailbox,
          Token.descriptor_pack]
        rfl
      exact within_of_granted hs hv hopen (hsound.bare hd).1 ht hrow rfl hl hm.history

theorem Counted.conduct (h : r.Counted) {settled steady : Prop} {t : Traffic}
    (hs : r.sessions[i]? = some s) (hv : s.sockets.get? k = some v)
    (hc : Conduct s.context settled steady v r.world t v' w') :
    Followed r (r.put i (s.store k v') w') :=
  conduct_preserves (p := fun r' _ => Followed r r') (q := fun _ => True) (fun _ _ _ => trivial)
    (fun h hs hv hd hm _ => h.trans (h.counted.deed hs hv hd hm)) hs hv hc h.followed trivial

theorem Counted.withQueue (h : r.Counted) (id : MailboxId) (queue : List Readiness) :
    Followed r { r with world := r.world.withQueue id queue } :=
  h.quiet h.sound h.formed (fun _ _ _ hv => hv) rfl [] rfl nofun

theorem Counted.act (h : r.Counted) {settled : Prop} {l : Log} (hs : r.sessions[i]? = some s)
    (ha : Session.Act settled s r.world l s' w') : Followed r (r.put i s' w') := by
  have hsound := h.sound.act hs ha
  have hformed : (r.put i s' w').AllFormed := h.formed.put hs ((h.formed i s hs).act ha)
  cases ha with
  | acted k hv hc => exact h.conduct hs hv hc
  | unarmed k d hv hd hc hf hc' => exact h.conduct hs hv hc'
  | dropped note queue =>
    rw [put_same hs]
    exact h.withQueue s.mailbox queue
  | @handled v t v' w' note queue hq hv hc hr =>
    have hpopped := h.withQueue s.mailbox queue
    exact hpopped.trans (hpopped.counted.conduct hs (Session.handler?_eq_some hv).2.1 hc)
  | forgot p hp =>
    exact h.quiet hsound hformed (fun j m u hu => ((socket?_forgot hs p j m u).1 hu).1) rfl
      [] rfl nofun
  | closed hc he =>
    exact h.quiet hsound hformed (fun j m u hu => socket?_closed hs j m ▸ hu) rfl
      [] rfl nofun

theorem Counted.course (h : r.Counted) {settled : Prop} {l : Log} (hs : r.sessions[i]? = some s)
    (hc : Session.Course settled s r.world l s' w') : Followed r (r.put i s' w') :=
  course_preserves (p := fun r' _ => Followed r r') (q := fun _ => True) (fun _ _ _ => trivial)
    (fun h hs ha _ => h.trans (h.counted.act hs ha)) hs hc h.followed trivial

theorem polling_unregistered {calls : History} (h : ∀ x ∈ calls, Reactor.Polling x) :
    History.Unregistered calls := by
  intro x hx
  cases h x hx <;> rfl

variable [OperatingSystem κ]

theorem Counted.turn (h : r.Counted) {settled : Prop} {x : Input κ} {l : Log}
    {frames : List Outgoing} (ht : Turn settled r x l frames r') : r'.Counted ∧ Since r r' := by
  have hsound := h.sound.turn ht
  have hformed := h.formed.turn ht
  have hkept : Followed r r' → r'.Counted ∧ Since r r' := fun h => ⟨h.counted, h.within.toSince⟩
  cases ht with
  | absent => exact hkept h.followed
  | served i hx hs hc => exact hkept (h.course hs hc)
  | @opened _ s _ i k kind hx hs hc hz hk hs' =>
    refine ⟨⟨hsound, hformed, h.next, h.numbered⟩, ⟨[], rfl⟩, fun j m token hb => .inl ?_,
      fun j m token he => .inl ⟨he, rfl⟩⟩
    rw [hs'] at hb
    rcases exists_of_store hs hb with ⟨-, htoken⟩ | hb
    · cases htoken
    · exact hb
  | entered settings =>
    exact hkept (h.quiet hsound hformed (fun j m u hu => socket?_enter r settings j m ▸ hu) rfl
      [] rfl nofun)
  | unpolled hm =>
    exact hkept (h.quiet hsound hformed (fun _ _ _ hu => hu) hm.reactor _ hm.history
      (List.forall_mem_singleton.2 rfl))
  | polled hm hd =>
    obtain ⟨calls, hcalls, hpolling⟩ := hd.round hm
    exact hkept (h.quiet hsound hformed (fun _ _ _ hu => hu) (hd.reactor.trans hm.reactor) calls
      hcalls (polling_unregistered hpolling))
  | elapsed =>
    exact hkept (h.quiet hsound hformed (fun _ _ _ hu => hu) rfl [] rfl nofun)

omit [OperatingSystem κ] in
theorem counted_start (system : κ) (maxEvents : Nat) : (start system maxEvents).Counted :=
  ⟨allSound_start system maxEvents, allFormed_start system maxEvents, rfl, trivial⟩

theorem Counted.run (h : r.Counted) (ho : r.AllOpen) (xs : List (Input κ)) : (r.run xs).Counted :=
  run_preserves (q := fun _ => True) (fun _ _ _ => trivial)
    (fun _ _ _ _ _ _ h ht _ => (h.turn ht).1) ho h trivial

end Relay

end SocketRelay
