import SocketRelay.Proofs.Relay.Step
import SocketRelay.Proofs.Socket.Sound

/-!
# Who owns a descriptor

Three things go together in every state of a relay: the descriptors that are open, the rows of the
reactor's table, and the virtual sockets that hold a descriptor. `Matched` says how: a socket's
descriptor has the row of that socket, a row belongs to a socket with that descriptor and token, and
nothing else is open or watched.

The only assumption is that a socket which the system opens gets a number that is not open. Every
other call may succeed or fail in any way.
-/
namespace SocketRelay
open History (OpensFresh ModifiesListed openDescriptors watch?)
open VirtualSocket (Deed Effect Conduct)

/-- Which socket of which session holds which descriptor under which token. -/
abbrev Holding := Nat → SocketId → Descriptor → Token → Prop

/-- Held descriptors, rows and open descriptors go together. -/
structure Matched (holds : Holding) (table : Table Descriptor Registration) (h : History) :
    Prop where
  entry : ∀ i k d token, holds i k d token → ∃ interest, table.get? d = some ⟨token, k, interest, i⟩
  owner : ∀ d registration, table.get? d = some registration →
    holds registration.mailbox registration.socket d registration.token
  listed : ∀ d registration, table.get? d = some registration →
    registration.token.descriptor = d ∧ d ∈ openDescriptors h ∧
      ∃ armed, watch? d h = some ⟨registration.interest.toEpoll, registration.token, armed⟩
  opened : ∀ d, d ∈ openDescriptors h → table.get? d ≠ none
  watched : ∀ d, watch? d h ≠ none → d ∈ openDescriptors h

namespace Matched
variable {holds holds' : Holding} {table : Table Descriptor Registration} {h h' : History}
variable {d : Descriptor}

/-- The same descriptors are held, open and watched as before; entries may have been armed or
disarmed. -/
theorem kept (hm : Matched holds table h)
    (hh : ∀ i k d token, holds' i k d token ↔ holds i k d token)
    (ho : openDescriptors h' = openDescriptors h)
    (hw : ∀ d, watch? d h' = watch? d h ∨ ∃ s armed, watch? d h = some s ∧
      watch? d h' = some { s with armed }) :
    Matched holds' table h' where
  entry i k d token hd := hm.entry i k d token ((hh i k d token).1 hd)
  owner d registration hr := (hh _ _ _ _).2 (hm.owner d registration hr)
  listed d registration hr := by
    obtain ⟨ht, hd, armed, ha⟩ := hm.listed d registration hr
    refine ⟨ht, ho ▸ hd, ?_⟩
    rcases hw d with hw | ⟨s, armed', hs, hw⟩
    · exact ⟨armed, hw.trans ha⟩
    · cases hs.symm.trans ha
      exact ⟨armed', hw⟩
  opened d hd := hm.opened d (ho ▸ hd)
  watched d hd := by
    rw [ho]
    rcases hw d with hw | ⟨s, armed, hs, hw⟩
    · exact hm.watched d (hw ▸ hd)
    · exact hm.watched d (by simp [hs])

theorem renewed (hm : Matched holds table h) {registration : Registration} {interest : Interest}
    (hr : table.get? d = some registration)
    (hh : ∀ i k d token, holds' i k d token ↔ holds i k d token)
    (ho : openDescriptors h' = openDescriptors h)
    (hd : watch? d h' = some ⟨interest.toEpoll, registration.token, true⟩)
    (hw : ∀ e, e ≠ d → watch? e h' = watch? e h) :
    Matched holds' (table.insert d { registration with interest }) h' where
  entry i k e token he := by
    obtain ⟨interest', he⟩ := hm.entry i k e token ((hh i k e token).1 he)
    rw [Table.get?_insert]
    split
    · rename_i hed
      cases hed
      cases hr.symm.trans he
      exact ⟨interest, rfl⟩
    · exact ⟨interest', he⟩
  owner e registration' he := by
    rw [Table.get?_insert] at he
    split at he
    · rename_i hed
      cases hed
      cases he
      exact (hh _ _ _ _).2 (hm.owner d registration hr)
    · exact (hh _ _ _ _).2 (hm.owner e registration' he)
  listed e registration' he := by
    rw [Table.get?_insert] at he
    rw [ho]
    split at he
    · rename_i hed
      cases hed
      cases he
      obtain ⟨ht, hopen, -⟩ := hm.listed d registration hr
      exact ⟨ht, hopen, true, hd⟩
    · rename_i hed
      rw [hw e hed]
      exact hm.listed e registration' he
  opened e he := by
    rw [Table.get?_insert]
    split
    · exact Option.some_ne_none _
    · exact hm.opened e (ho ▸ he)
  watched e he := by
    rw [ho]
    by_cases hed : e = d
    · exact hed ▸ (hm.listed d registration hr).2.1
    · exact hm.watched e (hw e hed ▸ he)

/-- A socket took over a fresh descriptor. -/
theorem taken (hm : Matched holds table h) {i : Nat} {k : SocketId} {token : Token}
    {interest : Interest} (ht : token.descriptor = d) (hfresh : d ∉ openDescriptors h)
    (hh : ∀ j m e t, holds' j m e t ↔ holds j m e t ∨ (j = i ∧ m = k ∧ e = d ∧ t = token))
    (ho : openDescriptors h' = d :: openDescriptors h)
    (hd : watch? d h' = some ⟨interest.toEpoll, token, true⟩)
    (hw : ∀ e, e ≠ d → watch? e h' = watch? e h) :
    Matched holds' (table.insert d ⟨token, k, interest, i⟩) h' := by
  have hnone : table.get? d = none := by
    cases hr : table.get? d with
    | none => rfl
    | some registration => exact (hfresh (hm.listed d registration hr).2.1).elim
  refine ⟨fun j m e t he => ?_, fun e registration he => ?_, fun e registration he => ?_,
    fun e he => ?_, fun e he => ?_⟩
  · rw [Table.get?_insert]
    rcases (hh j m e t).1 he with he | ⟨rfl, rfl, rfl, rfl⟩
    · obtain ⟨interest', he⟩ := hm.entry j m e t he
      have hne : e ≠ d := fun hed => by
        rw [hed, hnone] at he
        cases he
      exact ⟨interest', by rw [if_neg hne, he]⟩
    · exact ⟨interest, if_pos rfl⟩
  · rw [Table.get?_insert] at he
    split at he
    · rename_i hed
      cases he
      exact (hh _ _ _ _).2 (.inr ⟨rfl, rfl, hed, rfl⟩)
    · exact (hh _ _ _ _).2 (.inl (hm.owner e registration he))
  · rw [Table.get?_insert] at he
    rw [ho]
    split at he
    · rename_i hed
      cases hed
      cases he
      exact ⟨ht, List.mem_cons_self, true, hd⟩
    · rename_i hed
      obtain ⟨ht', hopen, ha⟩ := hm.listed e registration he
      exact ⟨ht', List.mem_cons_of_mem _ hopen, hw e hed ▸ ha⟩
  · rw [Table.get?_insert]
    split
    · exact Option.some_ne_none _
    · rename_i hed
      rw [ho] at he
      exact hm.opened e ((List.mem_cons.1 he).resolve_left hed)
  · rw [ho]
    by_cases hed : e = d
    · exact hed ▸ List.mem_cons_self
    · exact List.mem_cons_of_mem _ (hm.watched e (hw e hed ▸ he))

theorem given (hm : Matched holds table h)
    (hh : ∀ j m e t, holds' j m e t ↔ holds j m e t ∧ e ≠ d)
    (ho : openDescriptors h' = (openDescriptors h).filter (· ≠ d)) (hd : watch? d h' = none)
    (hw : ∀ e, e ≠ d → watch? e h' = watch? e h) : Matched holds' (table.erase d) h' where
  entry j m e t he := by
    obtain ⟨he, hed⟩ := (hh j m e t).1 he
    obtain ⟨interest, he⟩ := hm.entry j m e t he
    exact ⟨interest, by rw [Table.get?_erase, if_neg hed, he]⟩
  owner e registration he := by
    rw [Table.get?_erase] at he
    split at he
    · cases he
    · rename_i hed
      exact (hh _ _ _ _).2 ⟨hm.owner e registration he, hed⟩
  listed e registration he := by
    rw [Table.get?_erase] at he
    split at he
    · cases he
    · rename_i hed
      obtain ⟨ht, hopen, ha⟩ := hm.listed e registration he
      exact ⟨ht, by simpa [ho, hed] using hopen, hw e hed ▸ ha⟩
  opened e he := by
    simp only [ho, List.mem_filter, decide_eq_true_eq] at he
    rw [Table.get?_erase, if_neg he.2]
    exact hm.opened e he.1
  watched e he := by
    have hed : e ≠ d := fun hed => he (hed ▸ hd)
    simpa [ho, hed] using hm.watched e (hw e hed ▸ he)

theorem waited (hm : Matched holds table h) (most : Nat)
    (answer : Except Errno (List (UInt32 × Token))) :
    Matched holds table (⟨.epollWait most, answer⟩ :: h) := by
  cases answer with
  | error e => exact hm.kept (fun _ _ _ _ => .rfl) rfl fun _ => .inl rfl
  | ok reports =>
    refine hm.kept (fun _ _ _ _ => .rfl) rfl fun d => ?_
    cases hw : watch? d h with
    | none => simp [watch?, hw]
    | some s =>
      refine .inr ⟨s, (s.afterReports reports).armed, rfl, ?_⟩
      simp only [watch?, hw, Option.map_some, Option.some.injEq, Watch.afterReports]
      split <;> rfl

theorem rearmed (hm : Matched holds table h) {registration : Registration}
    (hr : table.get? d = some registration) (answer : Except Errno Unit) :
    Matched holds table
      (⟨.epollModify d registration.interest.toEpoll registration.token, answer⟩ :: h) := by
  cases answer with
  | error e => exact hm.kept (fun _ _ _ _ => .rfl) rfl fun _ => .inl rfl
  | ok =>
    obtain ⟨-, -, armed, ha⟩ := hm.listed d registration hr
    refine hm.kept (fun _ _ _ _ => .rfl) rfl fun e => ?_
    by_cases hde : d = e
    · rw [hde] at ha
      exact .inr ⟨_, true, ha, by simp [watch?, hde, ha]⟩
    · simp [watch?, hde]

theorem delivered {κ : Type} {w w' : World κ} {notes : List (MailboxId × Readiness)}
    (hd : Reactor.Delivery w notes w') (hm : Matched holds w.reactor.table w.history) :
    Matched holds w'.reactor.table w'.history := by
  induction hd with
  | done => exact hm
  | posted _ _ ih => exact ih hm
  | stale _ _ ih => exact ih hm
  | rearmed answer hr ht hw _ ih =>
    refine ih ?_
    rw [hw.reactor, hw.history, ← ht]
    exact hm.rearmed (ht ▸ hr) answer

/-- A descriptor has one holder, with one token. -/
theorem unique (hm : Matched holds table h) {i j : Nat} {k m : SocketId} {t u : Token}
    (hd : holds i k d t) (hd' : holds j m d u) : i = j ∧ k = m ∧ t = u := by
  obtain ⟨interest, hr⟩ := hm.entry i k d t hd
  obtain ⟨interest', hr'⟩ := hm.entry j m d u hd'
  cases hr.symm.trans hr'
  exact ⟨rfl, rfl, rfl⟩

end Matched

namespace Relay
variable {κ : Type}

def Holds (r : Relay κ) : Holding := fun i k d token =>
  ∃ v, r.socket? i k = some v ∧ v.descriptor = some d ∧ v.token = some token

/-- A session with the mailbox and the writer of its position. A closed one has no socket, and none
has too many. -/
structure Formed (i : Nat) (s : Session) : Prop where
  mailbox : s.mailbox = i
  writer : s.writer = i
  closed : s.closed → s.sockets = Table.empty
  size : s.sockets.size ≤ s.settings.maxSockets

def AllFormed (r : Relay κ) : Prop := ∀ i s, r.sessions[i]? = some s → Formed i s

/-- Every socket is sound and has the number under which it is kept. -/
def AllSound (r : Relay κ) : Prop := ∀ i k v, r.socket? i k = some v → v.Sound ∧ v.id = k

/-- Everything a relay holds is accounted for. -/
structure Owned (r : Relay κ) : Prop where
  formed : ∀ i s, r.sessions[i]? = some s → Formed i s
  sound : r.AllSound
  matched : Matched r.Holds r.world.reactor.table r.world.history

section
variable {r : Relay κ} {i : Nat} {s : Session} {k : SocketId} {v v' : VirtualSocket} {w' : World κ}

theorem AllSound.of_subset {r' : Relay κ} (h : r.AllSound)
    (hsub : ∀ j m u, r'.socket? j m = some u → r.socket? j m = some u) : r'.AllSound :=
  fun j m u hu => h j m u (hsub j m u hu)

theorem AllSound.store (h : r.AllSound) (hs : r.sessions[i]? = some s)
    (hv' : v'.Sound ∧ v'.id = k) :
    (r.put i (s.store k v') w').AllSound := by
  intro j m u hu
  rw [socket?_store hs] at hu
  split at hu
  · rename_i hjm
    cases hu
    exact hjm.2 ▸ hv'
  · exact h j m u hu

theorem AllSound.deed (h : r.AllSound) {settled steady : Prop} {calls : List Exchange}
    {t : Traffic} {rx : Reactor} (hs : r.sessions[i]? = some s) (hv : s.sockets.get? k = some v)
    (hd : Deed s.context settled steady v r.world.reactor calls t v' rx) :
    (r.put i (s.store k v') w').AllSound := by
  obtain ⟨hsound, hid⟩ := h i k v ((socket?_of_session hs k).trans hv)
  exact h.store hs ⟨hd.sound hsound, hd.id_eq.trans hid⟩

theorem AllSound.conduct (h : r.AllSound) {settled steady : Prop} {t : Traffic}
    (hs : r.sessions[i]? = some s) (hv : s.sockets.get? k = some v)
    (hc : Conduct s.context settled steady v r.world t v' w') :
    (r.put i (s.store k v') w').AllSound :=
  conduct_preserves (p := fun r _ => r.AllSound) (q := fun _ => True) (fun _ _ _ => trivial)
    (fun h hs hv hd _ _ => h.deed hs hv hd) hs hv hc h trivial

theorem socket?_forgot (hs : r.sessions[i]? = some s) (p : SocketId → VirtualSocket → Bool)
    (j : Nat) (m : SocketId) (u : VirtualSocket) :
    (r.put i { s with sockets := s.sockets.filter p } w').socket? j m = some u ↔
      r.socket? j m = some u ∧ (j = i → p m u) := by
  rw [socket?_put hs]
  split
  · rename_i hj
    simp [hj, socket?_of_session hs, Table.get?_filter, Option.filter_eq_some_iff]
  · rename_i hj
    simp [hj]

theorem AllSound.forgot (h : r.AllSound) (hs : r.sessions[i]? = some s)
    (p : SocketId → VirtualSocket → Bool) :
    (r.put i { s with sockets := s.sockets.filter p } w').AllSound :=
  h.of_subset fun j m u hu => ((socket?_forgot hs p j m u).1 hu).1

theorem socket?_closed (hs : r.sessions[i]? = some s) (j : Nat) (m : SocketId) :
    (r.put i { s with closed := true } w').socket? j m = r.socket? j m := by
  rw [socket?_put hs]
  split
  · rename_i hj
    rw [hj, socket?_of_session hs]
  · rfl

theorem AllSound.act (h : r.AllSound) {settled : Prop} {l : Log} {s' : Session}
    (hs : r.sessions[i]? = some s) (ha : Session.Act settled s r.world l s' w') :
    (r.put i s' w').AllSound := by
  cases ha with
  | acted k hv hc => exact h.conduct hs hv hc
  | unarmed k d hv hd hc hf' hc' => exact h.conduct hs hv hc'
  | dropped note queue =>
    rw [put_same hs]
    exact h
  | @handled v t v' w' note queue hq hv hc hr =>
    have h' : AllSound { r with world := r.world.withQueue s.mailbox queue } := h
    exact h'.conduct hs (Session.handler?_eq_some hv).2.1 hc
  | forgot p hp => exact h.forgot hs p
  | closed hc he => exact h.of_subset fun j m u hu => socket?_closed hs j m ▸ hu

theorem AllSound.turn [OperatingSystem κ] (h : r.AllSound) {settled : Prop} {x : Input κ} {l : Log}
    {frames : List Outgoing} {r' : Relay κ} (ht : Turn settled r x l frames r') : r'.AllSound := by
  cases ht with
  | served i hx hs hc =>
    exact course_preserves (p := fun r _ => r.AllSound) (q := fun _ => True) (fun _ _ _ => trivial)
      (fun h hs ha _ => h.act hs ha) hs hc h trivial
  | opened i k kind hx hs hc hz hk hs' =>
    rw [hs']
    exact h.store hs ⟨VirtualSocket.sound_new k kind, rfl⟩
  | entered settings => exact h.of_subset fun j m u hu => socket?_enter r settings j m ▸ hu
  | absent | unpolled | polled | elapsed => exact h

theorem allSound_start (system : κ) (maxEvents : Nat) : (start system maxEvents).AllSound := nofun

theorem AllSound.run [OperatingSystem κ] (h : r.AllSound) (ho : r.AllOpen) (xs : List (Input κ)) :
    (r.run xs).AllSound :=
  run_preserves (q := fun _ => True) (fun _ _ _ => trivial) (fun _ _ _ _ _ _ h ht _ => h.turn ht)
    ho h trivial

theorem AllFormed.put (h : r.AllFormed) {s' : Session} (hs : r.sessions[i]? = some s)
    (hs' : Formed i s') : (r.put i s' w').AllFormed := by
  intro j s'' hj
  rw [sessions_put hs] at hj
  split at hj
  · rename_i hji
    cases hj
    exact hji ▸ hs'
  · exact h j s'' hj

/-- Storing a socket in place of another one keeps the session well-formed. -/
theorem Formed.store (h : Formed i s) (hv : s.sockets.get? k = some v) :
    Formed i (s.store k v') where
  mailbox := h.mailbox
  writer := h.writer
  closed hc := by
    rw [h.closed hc] at hv
    cases hv
  size := by simpa [Session.store, Table.size_insert, hv] using h.size

theorem Formed.added (h : Formed i s) (hc : s.closed = false)
    (hz : s.sockets.size < s.settings.maxSockets) (hk : s.sockets.get? k = none) :
    Formed i (s.store k v) where
  mailbox := h.mailbox
  writer := h.writer
  closed hc' := by
    rw [show s.closed = true from hc'] at hc
    cases hc
  size := by simpa [Session.store, Table.size_insert, hk] using Nat.succ_le_of_lt hz

theorem Formed.forgot (h : Formed i s) (p : SocketId → VirtualSocket → Bool) :
    Formed i { s with sockets := s.sockets.filter p } where
  mailbox := h.mailbox
  writer := h.writer
  closed hc := by
    change s.sockets.filter p = _
    rw [h.closed hc]
    rfl
  size := Nat.le_trans (Table.size_filter_le _ _) h.size

theorem Formed.act (h : Formed i s) {settled : Prop} {l : Log} {w : World κ} {s' : Session}
    (ha : Session.Act settled s w l s' w') : Formed i s' := by
  cases ha with
  | acted k hv | unarmed k d hv => exact h.store hv
  | dropped => exact h
  | handled note queue hq hv => exact h.store (Session.handler?_eq_some hv).2.1
  | forgot p => exact h.forgot p
  | closed hc he => exact ⟨h.mailbox, h.writer, fun _ => he, h.size⟩

theorem Formed.course (h : Formed i s) {settled : Prop} {l : Log} {w : World κ} {s' : Session}
    (hc : Session.Course settled s w l s' w') : Formed i s' := by
  induction hc with
  | rest => exact h
  | act _ ha ih => exact ih.act ha

theorem formed_newcomer (r : Relay κ) (settings : Settings) :
    Formed r.sessions.length (r.newcomer settings) :=
  ⟨rfl, rfl, fun _ => rfl, Nat.zero_le _⟩

theorem AllFormed.enter (h : r.AllFormed) (settings : Settings) : (r.enter settings).AllFormed := by
  intro j s' hj
  rw [sessions_enter] at hj
  split at hj
  · rename_i hlast
    cases hj
    exact hlast ▸ formed_newcomer r settings
  · exact h j s' hj

theorem AllFormed.turn [OperatingSystem κ] (h : r.AllFormed) {settled : Prop} {x : Input κ}
    {l : Log}
    {frames : List Outgoing} {r' : Relay κ} (ht : Turn settled r x l frames r') : r'.AllFormed := by
  cases ht with
  | served i hx hs hc => exact h.put hs ((h i _ hs).course hc)
  | opened i k kind hx hs hc hz hk hs' =>
    rw [hs']
    exact h.put hs ((h i _ hs).added hc hz hk)
  | entered settings => exact h.enter settings
  | absent | unpolled | polled | elapsed => exact h

theorem allFormed_start (system : κ) (maxEvents : Nat) : (start system maxEvents).AllFormed := by
  intro i s h
  cases h

theorem AllFormed.run [OperatingSystem κ] (h : r.AllFormed) (ho : r.AllOpen) (xs : List (Input κ)) :
    (r.run xs).AllFormed :=
  run_preserves (q := fun _ => True) (fun _ _ _ => trivial) (fun _ _ _ _ _ _ h ht _ => h.turn ht)
    ho h trivial

/-- What a session writes reaches its own client and no other. -/
theorem AllFormed.framesTo_serve (h : r.AllFormed) (i : Nat)
    (operation : Session → Action κ Session.Reply) (j : Nat) :
    framesTo j (r.serve i operation).2 =
      if i = j then (r.serve i operation).2.map Outgoing.frame else [] := by
  cases hs : r.sessions[i]? with
  | none => simp [serve, hs]
  | some s => rw [serve_of_session hs, framesTo_outgoing, (h i s hs).writer, s.map_frame_outgoing]

theorem AllFormed.framesTo_step [OperatingSystem κ] (h : r.AllFormed) (x : Input κ) (j : Nat) :
    framesTo j (r.step x).2 =
      if x.session? = some j then (r.step x).2.map Outgoing.frame else [] := by
  cases x with
  | frame i | drain i | expire i | leave i =>
    refine (h.framesTo_serve i _ j).trans ?_
    simp only [Input.session?, Option.some.injEq]
    rfl
  | enter | poll | elapse => rfl

theorem Owned.row (h : r.Owned) {d : Descriptor} (hv : r.socket? i k = some v)
    (hd : v.descriptor = some d) :
    ∃ token interest armed, v.token = some token ∧ token.descriptor = d ∧
      r.world.reactor.table.get? d = some ⟨token, k, interest, i⟩ ∧
      d ∈ openDescriptors r.world.history ∧
      watch? d r.world.history = some ⟨interest.toEpoll, token, armed⟩ := by
  obtain ⟨token, ht⟩ := (h.sound i k v hv).1.token_of_descriptor hd
  obtain ⟨interest, hr⟩ := h.matched.entry i k d token ⟨v, hv, hd, ht⟩
  obtain ⟨htd, ho, armed, ha⟩ := h.matched.listed d _ hr
  exact ⟨token, interest, armed, ht, htd, hr, ho, ha⟩

theorem Owned.alone (h : r.Owned) {j : Nat} {m : SocketId} {u : VirtualSocket} {d : Descriptor}
    (hv : r.socket? i k = some v) (hd : v.descriptor = some d) (hu : r.socket? j m = some u)
    (hd' : u.descriptor = some d) : i = j ∧ k = m := by
  obtain ⟨token, -, -, ht, -⟩ := h.row hv hd
  obtain ⟨token', -, -, ht', -⟩ := h.row hu hd'
  obtain ⟨hi, hk, -⟩ := h.matched.unique ⟨v, hv, hd, ht⟩ ⟨u, hu, hd', ht'⟩
  exact ⟨hi, hk⟩

/-- Setting an interest cannot fail on a descriptor that a socket holds. -/
theorem Owned.set_succeeds (h : r.Owned) {d : Descriptor} (hv : r.socket? i k = some v)
    (hd : v.descriptor = some d) (hm : ModifiesListed w'.history) :
    ¬ Reactor.SetFailed d r.world w' := by
  obtain ⟨token, interest, armed, -, -, hr, -, hw⟩ := h.row hv hd
  intro hfail
  rcases hfail with ⟨hn, -⟩ | ⟨bits, token', e, hmoved⟩
  · rw [hr] at hn
    cases hn
  · rw [hmoved.history] at hm
    have hn : watch? d r.world.history = none := of_decide_eq_true hm.1
    rw [hw] at hn
    cases hn

/-- What is held once a socket has been stored: what that socket holds, and what others do. -/
theorem holds_store (hs : r.sessions[i]? = some s) (j : Nat) (m : SocketId) (d : Descriptor)
    (token : Token) : (r.put i (s.store k v') w').Holds j m d token ↔
      if j = i ∧ m = k then v'.descriptor = some d ∧ v'.token = some token
      else r.Holds j m d token := by
  unfold Holds
  rw [socket?_store hs]
  split <;> simp

theorem holds_of_socket? (hv : r.socket? i k = some v) (d : Descriptor) (token : Token) :
    r.Holds i k d token ↔ v.descriptor = some d ∧ v.token = some token := by
  simp [Holds, hv]

theorem holds_store_same (hs : r.sessions[i]? = some s) (hv : r.socket? i k = some v)
    (hd : v'.descriptor = v.descriptor) (ht : v'.token = v.token) (j : Nat) (m : SocketId)
    (d : Descriptor) (token : Token) :
    (r.put i (s.store k v') w').Holds j m d token ↔ r.Holds j m d token := by
  rw [holds_store hs]
  split
  · rename_i hjm
    rw [hjm.1, hjm.2, holds_of_socket? hv, hd, ht]
  · rfl

theorem Owned.deed (h : r.Owned) {settled steady : Prop} {calls : List Exchange} {t : Traffic}
    {rx : Reactor} (hs : r.sessions[i]? = some s) (hv : s.sockets.get? k = some v)
    (hd : Deed s.context settled steady v r.world.reactor calls t v' rx)
    (hm : r.world.Moved calls rx w') (hf : OpensFresh w'.history) :
    (r.put i (s.store k v') w').Owned := by
  have hik : r.socket? i k = some v := (socket?_of_session hs k).trans hv
  obtain ⟨hsound, hid⟩ := h.sound i k v hik
  have hformed : r.AllFormed := h.formed
  refine ⟨hformed.put hs ((hformed i s hs).store hv), h.sound.deed hs hv hd, ?_⟩
  rw [hm.history] at hf
  have he := hd.effect hsound _ hf h.matched.watched
  change Matched _ w'.reactor.table w'.history
  rw [hm.reactor, hm.history]
  cases he with
  | kept hd ht hr ho hw =>
    rw [hr]
    exact h.matched.kept (holds_store_same hs hik hd ht) ho fun d => .inl (hw d)
  | renewed d registration hd hd' ht hreg hr ho hwd hw =>
    obtain ⟨-, -, armed, ha⟩ := h.matched.listed d registration hreg
    rw [hr]
    exact h.matched.renewed hreg (holds_store_same hs hik (hd'.trans hd.symm) ht) ho
      (by rw [hwd, ha]; rfl) hw
  | opened d token hd hd' ht htd hfresh hr ho hwd hw =>
    rw [hr, hid, show s.context.mailbox = i from (h.formed i s hs).mailbox]
    refine h.matched.taken htd hfresh (fun j m e t => ?_) ho hwd hw
    rw [holds_store hs]
    split
    · rename_i hjm
      rw [hjm.1, hjm.2, holds_of_socket? hik, hd, hd', ht]
      simp [eq_comm]
    · rename_i hjm
      refine ⟨.inl, fun h' => h'.resolve_right fun h' => hjm ⟨h'.1, h'.2.1⟩⟩
  | closed d hd hd' ht hr ho hwd hw =>
    rw [hr]
    refine h.matched.given (fun j m e t => ?_) ho hwd hw
    rw [holds_store hs]
    split
    · rename_i hjm
      rw [hjm.1, hjm.2, holds_of_socket? hik, hd, hd']
      refine ⟨fun h' => (nomatch h'.1), fun ⟨⟨hde, _⟩, hed⟩ => (hed ?_).elim⟩
      exact (Option.some.inj hde).symm
    · rename_i hjm
      refine ⟨fun h' => ⟨h', fun hed => ?_⟩, And.left⟩
      obtain ⟨token, htoken⟩ := hsound.token_of_descriptor hd
      obtain ⟨hj, hm, -⟩ := h.matched.unique (hed ▸ h')
        ((holds_of_socket? hik d token).2 ⟨hd, htoken⟩)
      exact hjm ⟨hj, hm⟩

theorem Owned.conduct (h : r.Owned) {settled steady : Prop} {t : Traffic}
    (hs : r.sessions[i]? = some s) (hv : s.sockets.get? k = some v)
    (hc : Conduct s.context settled steady v r.world t v' w') (hf : OpensFresh w'.history) :
    (r.put i (s.store k v') w').Owned :=
  conduct_preserves (p := fun r _ => r.Owned) (fun _ _ => History.Throughout.of_append)
    (fun h hs hv hd hm hf => h.deed hs hv hd hm hf) hs hv hc h hf

/-- A socket that wants to write can always be armed for it. -/
theorem Owned.arms (h : r.Owned) {settled steady : Prop} {t : Traffic} {d : Descriptor}
    {w₁ : World κ} (hs : r.sessions[i]? = some s) (hv : s.sockets.get? k = some v)
    (hc : Conduct s.context settled steady v r.world t v w₁) (hd : v.live? = some d)
    (hf : OpensFresh w'.history) (hm : ModifiesListed w'.history) :
    ¬ Reactor.SetFailed d w₁ w' := by
  intro hfail
  have hf₁ : OpensFresh w₁.history := by
    rcases hfail with ⟨-, rfl⟩ | ⟨bits, token, e, hmoved⟩
    · exact hf
    · rw [hmoved.history] at hf
      exact hf.of_append
  have hik : (r.put i (s.store k v) w₁).socket? i k = some v := by
    rw [socket?_store hs, if_pos ⟨rfl, rfl⟩]
  exact (h.conduct hs hv hc hf₁).set_succeeds hik (VirtualSocket.live?_eq_some.1 hd).2 hm hfail

theorem Owned.withQueue (h : r.Owned) (id : MailboxId) (queue : List Readiness) :
    Owned { r with world := r.world.withQueue id queue } :=
  ⟨h.formed, h.sound, h.matched⟩

theorem Owned.allotted (h : r.Owned) {kind : SocketKind} (hs : r.sessions[i]? = some s)
    (hc : s.closed = false) (hz : s.sockets.size < s.settings.maxSockets)
    (hk : s.sockets.get? k = none) :
    (r.put i (s.store k { id := k, kind }) r.world).Owned := by
  have hik : r.socket? i k = none := (socket?_of_session hs k).trans hk
  have hformed : r.AllFormed := h.formed
  refine ⟨hformed.put hs ((hformed i s hs).added hc hz hk),
    h.sound.store hs ⟨VirtualSocket.sound_new k kind, rfl⟩,
    h.matched.kept (fun j m d token => ?_) rfl fun d => .inl rfl⟩
  rw [holds_store hs]
  split
  · rename_i hjm
    simp [Holds, hjm.1, hjm.2, hik]
  · rfl

/-- Forgetting closed sockets gives nothing away. -/
theorem Owned.forgot (h : r.Owned) (hs : r.sessions[i]? = some s)
    {p : SocketId → VirtualSocket → Bool}
    (hp : ∀ k v, s.sockets.get? k = some v → p k v = false → v.closed) :
    (r.put i { s with sockets := s.sockets.filter p } r.world).Owned := by
  have hformed : r.AllFormed := h.formed
  refine ⟨hformed.put hs ((hformed i s hs).forgot p), h.sound.forgot hs p,
    h.matched.kept (fun j m d token => ?_) rfl fun d => .inl rfl⟩
  constructor
  · intro hholds
    obtain ⟨u, hu, hd, ht⟩ := hholds
    exact ⟨u, ((socket?_forgot hs p j m u).1 hu).1, hd, ht⟩
  · intro hholds
    obtain ⟨u, hu, hd, ht⟩ := hholds
    refine ⟨u, (socket?_forgot hs p j m u).2 ⟨hu, fun hj => ?_⟩, hd, ht⟩
    refine (Bool.eq_false_or_eq_true _).resolve_right fun hpm => ?_
    have hclosed := hp m u (by rw [← socket?_of_session hs, ← hj]; exact hu) hpm
    rw [(h.sound j m u hu).1.released hclosed] at hd
    cases hd

theorem Owned.act (h : r.Owned) {settled : Prop} {l : Log} {s' : Session}
    (hs : r.sessions[i]? = some s) (ha : Session.Act settled s r.world l s' w')
    (hf : OpensFresh w'.history) : (r.put i s' w').Owned := by
  have hsound := h.sound.act hs ha
  have hformed : r.AllFormed := h.formed
  have hput : (r.put i s' w').AllFormed := hformed.put hs ((hformed i s hs).act ha)
  cases ha with
  | acted k hv hc => exact h.conduct hs hv hc hf
  | unarmed k d hv hd hc hf' hc' => exact h.conduct hs hv hc' hf
  | dropped note queue =>
    rw [put_same hs]
    exact h.withQueue s.mailbox queue
  | @handled v t v' w' note queue hq hv hc hr =>
    exact (h.withQueue s.mailbox queue).conduct hs ((Session.handler?_eq_some hv).2.1) hc hf
  | forgot p hp => exact h.forgot hs hp
  | closed hc he =>
    refine ⟨hput, hsound, h.matched.kept (fun j m d token => ?_) rfl fun d => .inl rfl⟩
    unfold Holds
    rw [socket?_closed hs]

theorem Owned.enter (h : r.Owned) (settings : Settings) : (r.enter settings).Owned := by
  refine ⟨AllFormed.enter h.formed settings,
    h.sound.of_subset fun j m u hu => socket?_enter r settings j m ▸ hu,
    h.matched.kept (fun j m d token => ?_) rfl fun d => .inl rfl⟩
  unfold Holds
  rw [socket?_enter]

theorem Owned.turn [OperatingSystem κ] (h : r.Owned) {settled : Prop} {x : Input κ} {l : Log}
    {frames : List Outgoing} {r' : Relay κ} (ht : Turn settled r x l frames r')
    (hf : OpensFresh r'.world.history) : r'.Owned := by
  cases ht with
  | absent i hx hn => exact h
  | served i hx hs hc =>
    exact course_preserves (p := fun r _ => r.Owned) (fun _ _ => History.Throughout.of_append)
      (fun h hs ha hf => h.act hs ha hf) hs hc h hf
  | opened i k kind hx hs hc hz hk hs' =>
    rw [hs']
    exact h.allotted hs hc hz hk
  | entered settings => exact h.enter settings
  | unpolled hm =>
    refine ⟨h.formed, h.sound, ?_⟩
    rw [hm.reactor, hm.history]
    exact h.matched.waited _ _
  | polled hm hd =>
    refine ⟨h.formed, h.sound, Matched.delivered hd ?_⟩
    rw [hm.reactor, hm.history]
    exact h.matched.waited _ _
  | elapsed system now => exact ⟨h.formed, h.sound, h.matched⟩

theorem owned_start (system : κ) (maxEvents : Nat) : (start system maxEvents).Owned := by
  have hnone : ∀ i k d token, ¬ (start system maxEvents).Holds i k d token := by
    intro i k d token hholds
    obtain ⟨v, hv, -⟩ := hholds
    cases hv
  exact ⟨allFormed_start system maxEvents, allSound_start system maxEvents,
    ⟨fun i k d token h => (hnone i k d token h).elim, nofun, nofun, nofun, fun d h => (h rfl).elim⟩⟩

theorem Owned.run [OperatingSystem κ] (h : r.Owned) (ho : r.AllOpen) {xs : List (Input κ)}
    (hf : OpensFresh (r.run xs).world.history) : (r.run xs).Owned :=
  run_preserves (fun _ _ => History.Throughout.of_append) (fun _ _ _ _ _ _ h ht hf => h.turn ht hf)
    ho h hf

theorem owned_run [OperatingSystem κ] {system : κ} {maxEvents : Nat} {xs : List (Input κ)}
    (hf : OpensFresh ((start system maxEvents).run xs).world.history) :
    ((start system maxEvents).run xs).Owned :=
  (owned_start system maxEvents).run (allOpen_start system maxEvents) hf

end

end Relay

end SocketRelay
