import SocketRelay.Proofs.Relay.Basic

/-!
# What one step of a relay is

`Turn` lists the kinds of steps, and `step_turn` says that there are no others. The reactor's round
is a `Delivery`: the notes of one wait, each posted or given back to its registration.
-/
namespace SocketRelay

namespace Reactor
open SocketRelay.Action (Ends)
variable {κ : Type}

/-- Notes are posted as far as they fit. For the others the registration is armed again, if it is
still the one that reported. -/
inductive Delivery : World κ → List (MailboxId × Readiness) → World κ → Prop
  | done {w} : Delivery w [] w
  | posted {w m note box rest w'} : (w.mailbox m).post? note = some box →
      Delivery { w with mailboxes := w.mailboxes.insert m box } rest w' →
      Delivery w ((m, note) :: rest) w'
  | stale {w m note rest w'} :
      (∀ registration, w.reactor.table.get? note.token.descriptor = some registration →
        registration.token ≠ note.token) →
      Delivery w rest w' → Delivery w ((m, note) :: rest) w'
  | rearmed {w w₁ m note registration rest w'} (answer) :
      w.reactor.table.get? note.token.descriptor = some registration →
      registration.token = note.token →
      w.Moved
        [⟨.epollModify note.token.descriptor registration.interest.toEpoll note.token, answer⟩]
        w.reactor w₁ →
      Delivery w₁ rest w' → Delivery w ((m, note) :: rest) w'

/-- The calls that a poll makes: it waits, and it arms registrations again. -/
inductive Polling : Exchange → Prop
  | waited (most answer) : Polling ⟨.epollWait most, answer⟩
  | armed (d bits token answer) : Polling ⟨.epollModify d bits token, answer⟩

theorem Delivery.calls {w w' : World κ} {notes : List (MailboxId × Readiness)}
    (h : Delivery w notes w') : ∃ calls, w'.history = calls ++ w.history ∧
      ∀ x ∈ calls, Polling x := by
  induction h with
  | done => exact ⟨[], rfl, nofun⟩
  | posted _ _ ih => exact ih
  | stale _ _ ih => exact ih
  | rearmed answer _ _ hm _ ih =>
    obtain ⟨calls, hc, hpolling⟩ := ih
    refine ⟨calls ++ [_], by rw [hc, hm.history, List.append_assoc], fun x hx => ?_⟩
    rcases List.mem_append.1 hx with hx | hx
    · exact hpolling x hx
    · rw [List.mem_singleton.1 hx]
      exact .armed _ _ _ answer

theorem Delivery.round {w w₁ w' : World κ} {notes : List (MailboxId × Readiness)} {rx : Reactor}
    {most : Nat} {answer : (Call.epollWait most).Answer} (h : Delivery w₁ notes w')
    (hm : w.Moved [⟨.epollWait most, answer⟩] rx w₁) :
    ∃ calls, w'.history = calls ++ w.history ∧ ∀ x ∈ calls, Polling x := by
  obtain ⟨calls, hc, hpolling⟩ := h.calls
  refine ⟨calls ++ [_], by rw [hc, hm.history, List.append_assoc], fun x hx => ?_⟩
  rcases List.mem_append.1 hx with hx | hx
  · exact hpolling x hx
  · rw [List.mem_singleton.1 hx]
    exact .waited most answer

theorem Delivery.reactor {w w' : World κ} {notes : List (MailboxId × Readiness)}
    (h : Delivery w notes w') : w'.reactor = w.reactor := by
  induction h with
  | done => rfl
  | posted _ _ ih => exact ih
  | stale _ _ ih => exact ih
  | rearmed answer _ _ hm _ ih => exact ih.trans hm.reactor

variable [OperatingSystem κ]

theorem deliver_ends (notes : List (MailboxId × Readiness)) (w : World κ) :
    (deliver notes).Ends w fun _ w' => Delivery w notes w' := by
  induction notes generalizing w with
  | nil => exact Ends.pure .done
  | cons head rest ih =>
    obtain ⟨m, note⟩ := head
    unfold deliver
    cases hpost : (w.mailbox m).post? note with
    | some box =>
      have hp : post m note w = (true, { w with mailboxes := w.mailboxes.insert m box }) := by
        unfold post
        rw [hpost]
      refine Ends.bind (p := fun fitted w' => (fitted, w') = post m note w) rfl ?_
      intro fitted w₁ h₁
      cases h₁.trans hp
      exact Ends.bind (ih _) fun _ _ h => Ends.pure (.posted hpost h)
    | none =>
      have hp : post m note w = (false, w) := by
        unfold post
        rw [hpost]
      refine Ends.bind (p := fun fitted w' => (fitted, w') = post m note w) rfl ?_
      intro fitted w₁ h₁
      cases h₁.trans hp
      refine Ends.bind rearm_ends ?_
      intro _ w₂ hleft
      rcases hleft with ⟨hs, rfl⟩ | ⟨registration, answer, hr, ht, h₂⟩
      · exact (ih _).mono fun _ _ h => .stale hs h
      · exact (ih _).mono fun _ _ h => .rearmed answer hr ht h₂ h

/-- A round of the reactor: one wait, and the delivery of what it reported. -/
theorem pollOnce_ends {w : World κ} :
    pollOnce.Ends w fun _ w' =>
      (∃ e, w.Moved [⟨.epollWait w.reactor.maxEvents, .error e⟩] w.reactor w') ∨
        ∃ reports w₁, w.Moved [⟨.epollWait w.reactor.maxEvents, .ok reports⟩] w.reactor w₁ ∧
          Delivery w₁ (reports.filterMap (note? w.reactor.table)) w' := by
  unfold pollOnce
  refine Ends.read (Ends.call fun answer w₁ h₁ => ?_)
  cases answer with
  | error e =>
    dsimp only
    split
    · exact Ends.pure (.inl ⟨e, h₁⟩)
    · exact Ends.pure (.inl ⟨e, h₁⟩)
  | ok reports =>
    refine Ends.read ?_
    rw [h₁.reactor]
    exact Ends.bind (deliver_ends _ w₁) fun _ w' h => Ends.pure (.inr ⟨reports, w₁, h₁, h⟩)

end Reactor

namespace Relay
open SocketRelay.Action (Ends)
open Session (Act Course emit)
open VirtualSocket (Deed Conduct)
variable {κ : Type}

/-- What every deed of a socket preserves is preserved by a conduct. -/
theorem conduct_preserves {settled steady : Prop} {p : Relay κ → Traffic → Prop}
    {q : History → Prop} (hq : ∀ calls h, q (calls ++ h) → q h) {i : Nat} {k : SocketId}
    (hdeed : ∀ {r t s v calls t' v' rx w'}, p r t → r.sessions[i]? = some s →
      s.sockets.get? k = some v → Deed s.context settled steady v r.world.reactor calls t' v' rx →
      r.world.Moved calls rx w' → q w'.history → p (r.put i (s.store k v') w') (t ++ t'))
    {r : Relay κ} {s : Session} {v v' : VirtualSocket} {t : Traffic} {w' : World κ}
    (hs : r.sessions[i]? = some s) (hv : s.sockets.get? k = some v)
    (hc : Conduct s.context settled steady v r.world t v' w') (hp : p r {}) (hf : q w'.history) :
    p (r.put i (s.store k v') w') t := by
  induction hc with
  | rest =>
    rw [Session.store, Table.insert_of_get? hv]
    rwa [put_same hs]
  | @deed t v' w' calls t' v'' rx w'' hc hd hm ih =>
    rw [hm.history] at hf
    have hs' : (r.put i (s.store k v') w').sessions[i]? = some (s.store k v') := by
      rw [sessions_put hs, if_pos rfl]
    have hv' : (s.store k v').sockets.get? k = some v' := by simp [Session.store]
    have hp' := hdeed (ih (hq _ _ hf)) hs' hv' hd hm (by rwa [hm.history])
    have hstore : (s.store k v').store k v'' = s.store k v'' := by
      simp [Session.store, Table.insert_insert]
    rwa [put_put, hstore] at hp'

/-- What every act of a session preserves is preserved by a course. -/
theorem course_preserves {settled : Prop} {p : Relay κ → Log → Prop} {q : History → Prop}
    (hq : ∀ calls h, q (calls ++ h) → q h) {i : Nat}
    (hact : ∀ {r l s l' s' w'}, p r l → r.sessions[i]? = some s → Act settled s r.world l' s' w' →
      q w'.history → p (r.put i s' w') (l ++ l'))
    {r : Relay κ} {s s' : Session} {l : Log} {w' : World κ} (hs : r.sessions[i]? = some s)
    (hc : Course settled s r.world l s' w') (hp : p r []) (hf : q w'.history) :
    p (r.put i s' w') l := by
  induction hc with
  | rest => rwa [put_same hs]
  | @act l s' w' l' s'' w'' hc ha ih =>
    obtain ⟨calls, hcalls⟩ := ha.history
    have hs' : (r.put i s' w').sessions[i]? = some s' := by rw [sessions_put hs, if_pos rfl]
    have hp' := hact (ih (hq calls _ (hcalls ▸ hf))) hs' ha hf
    rwa [put_put] at hp'

variable [OperatingSystem κ]

/-- The notes that a step lets sockets handle, each with its socket as it is then. -/
def handled (r : Relay κ) : Input κ → List (VirtualSocket × Readiness)
  | .drain i =>
    match r.sessions[i]? with
    | some s => s.handled (r.world.mailbox s.mailbox).queue.length r.world
    | none => []
  | _ => []

/-- The bytes that a step adds to the stream of a socket. -/
def accepted (r : Relay κ) (i : Nat) (k : SocketId) : Input κ → Bytes
  | .frame j bytes =>
    if j = i then
      match r.sessions[i]? with
      | some s => s.acceptedFrom bytes r.world k
      | none => []
    else []
  | _ => []

/-- The kinds of steps: before, the input, the frames, after. -/
inductive Turn (settled : Prop) (r : Relay κ) : Input κ → Log → List Outgoing → Relay κ → Prop
  | absent {x} (i) : x.session? = some i → r.sessions[i]? = none → Turn settled r x [] [] r
  | served {x s l s' w'} (i) : x.session? = some i → r.sessions[i]? = some s →
      Course settled s r.world l s' w' → s'.AllOpen →
      (∀ k, s.sockets.get? k ≠ none → (l.of k).accepted = r.accepted i k x) →
      (∀ k, (l.of k).dismissed → x.Dismisses i k) → (∀ k, x.Dismisses i k → l.events = []) →
      (∀ order, x = .leave i order → s'.closed) →
      Turn settled r x l (s.outgoing (emit l.events).1) (r.put i s' w')
  | opened {x s s'} (i k kind) : x.Opens i k kind → r.sessions[i]? = some s →
      s.closed = false → s.sockets.size < s.settings.maxSockets → s.sockets.get? k = none →
      s' = s.store k { id := k, kind } → Turn settled r x [] [] (r.put i s' r.world)
  | entered (settings) : Turn settled r (.enter settings) [] [] (r.enter settings)
  | unpolled {e w'} : r.world.Moved [⟨.epollWait r.world.reactor.maxEvents, .error e⟩]
      r.world.reactor w' → Turn settled r .poll [] [] { r with world := w' }
  | polled {reports w₁ w'} :
      r.world.Moved [⟨.epollWait r.world.reactor.maxEvents, .ok reports⟩] r.world.reactor w₁ →
      Reactor.Delivery w₁ (reports.filterMap (Reactor.note? r.world.reactor.table)) w' →
      Turn settled r .poll [] [] { r with world := w' }
  | elapsed (system now) : Turn settled r (.elapse system now) [] []
      { r with world := { r.world with system, now } }

def AllOpen (r : Relay κ) : Prop := ∀ (i : Nat) (s : Session), r.sessions[i]? = some s → s.AllOpen

theorem serve_turn {settled : Prop} {r : Relay κ} {x : Input κ} {i : Nat}
    {operation : Session → Action κ Session.Reply} (hx : x.session? = some i)
    (h : ∀ s, r.sessions[i]? = some s → (operation s).Ends r.world fun reply w' =>
      ∃ l, Session.Runs settled s r.world l reply w' ∧
        (∀ k, s.sockets.get? k ≠ none → (l.of k).accepted = r.accepted i k x) ∧
        (∀ k, (l.of k).dismissed → x.Dismisses i k) ∧ (∀ k, x.Dismisses i k → l.events = []) ∧
        (∀ order, x = .leave i order → reply.session.closed)) :
    ∃ l, Turn settled r x l (r.serve i operation).2 (r.serve i operation).1 := by
  unfold serve
  cases hs : r.sessions[i]? with
  | none => exact ⟨[], .absent i hx hs⟩
  | some s =>
    obtain ⟨l, hr, ha, hd, he, hl⟩ := h s hs
    refine ⟨l, ?_⟩
    have ht := Turn.served i hx hs hr.course hr.allOpen ha hd he hl
    rwa [← hr.frames] at ht

theorem frame_turn (settled : Prop) {r : Relay κ} (ho : r.AllOpen) (i : Nat) (bytes : Bytes) :
    ∃ l, Turn settled r (.frame i bytes) l (r.step (.frame i bytes)).2
      (r.step (.frame i bytes)).1 := by
  change ∃ l, Turn settled r (.frame i bytes) l (r.serve i fun s => s.onMessage bytes).2
    (r.serve i fun s => s.onMessage bytes).1
  unfold serve
  cases hs : r.sessions[i]? with
  | none => exact ⟨[], .absent i rfl hs⟩
  | some s =>
    have h : (s.onMessage bytes).Ends r.world _ := Session.onMessage_runs settled (ho i s hs)
    unfold Ends at h
    dsimp only
    generalize s.onMessage bytes r.world = outcome at h ⊢
    obtain ⟨reply, w'⟩ := outcome
    rcases h with ⟨l, hr, ha, hd⟩ | ⟨request, k, kind, hdecode, hg, hframes, hw⟩
    · refine ⟨l, ?_⟩
      dsimp only at hr ⊢
      rw [hr.frames]
      refine .served i rfl hs hr.course hr.allOpen (fun k hk => ?_) (fun k hk => ?_)
        (fun k hk => ?_) nofun
      · simp [ha k hk, accepted, hs]
      · exact .inr ⟨bytes, rfl, (hd k).1 hk⟩
      · rcases hk with ⟨order, hx⟩ | ⟨bytes', hx, hdecode⟩
        · cases hx
        · cases hx
          exact (hd k).2 hdecode
    · obtain ⟨code, rfl, hkind⟩ := hg.asked
      refine ⟨[], ?_⟩
      dsimp only at hframes hw hg ⊢
      rw [hframes, hw]
      exact .opened i k kind ⟨bytes, code, rfl, hdecode, hkind⟩ hs
        hg.opened hg.room hg.free hg.stored

theorem step_turn (settled : Prop) {r : Relay κ} (ho : r.AllOpen) (x : Input κ)
    (hs : settled → ∀ p ∈ r.handled x,
      p.1.connectStarted = none ∨ p.2.events.write ∨ p.2.events.error) :
    ∃ l, Turn settled r x l (r.step x).2 (r.step x).1 := by
  cases x with
  | enter settings => exact ⟨[], .entered settings⟩
  | frame i bytes => exact frame_turn settled ho i bytes
  | drain i =>
    refine serve_turn rfl fun s h => Ends.bind (Session.drainMailbox_runs settled
      (ho i s h) fun hs' => by simpa [handled, h] using hs hs') ?_
    intro r w' hreply
    obtain ⟨l, hr, hl⟩ := hreply
    refine Ends.pure ⟨l, hr, fun k _ => (hl k).1, fun k hk => ?_, fun k hk => ?_, nofun⟩
    · rw [(hl k).2] at hk
      cases hk
    · obtain ⟨order, hx⟩ | ⟨bytes, hx, -⟩ := hk <;> cases hx
  | expire i now order =>
    refine serve_turn rfl fun s h => Ends.bind (Session.expireStalledConnects_runs settled
      (ho i s h)) ?_
    intro r w' hreply
    obtain ⟨l, hr, hl⟩ := hreply
    refine Ends.pure ⟨l, hr, fun k _ => (hl k).1, fun k hk => ?_, fun k hk => ?_, nofun⟩
    · rw [(hl k).2] at hk
      cases hk
    · obtain ⟨order, hx⟩ | ⟨bytes, hx, -⟩ := hk <;> cases hx
  | leave i order =>
    refine serve_turn rfl fun s h => (Session.close_runs settled
      (ho i s h)).mono ?_
    intro reply w' hreply
    obtain ⟨l, hr, hl, he, hc⟩ := hreply
    exact ⟨l, hr, fun k _ => hl k, fun _ _ => .inl ⟨order, rfl⟩, fun _ _ => he, fun _ _ => hc⟩
  | poll =>
    rcases Reactor.pollOnce_ends (w := r.world) with ⟨e, h⟩ | ⟨reports, w₁, h₁, h⟩
    · exact ⟨[], .unpolled h⟩
    · exact ⟨[], .polled h₁ h⟩
  | elapse system now => exact ⟨[], .elapsed system now⟩

theorem Turn.history {settled : Prop} {r r' : Relay κ} {x : Input κ} {l : Log}
    {frames : List Outgoing} (h : Turn settled r x l frames r') :
    ∃ calls, r'.world.history = calls ++ r.world.history := by
  cases h with
  | served i hx hs hc => exact hc.history
  | unpolled hm => exact ⟨_, hm.history⟩
  | polled hm hd =>
    obtain ⟨calls, hc, -⟩ := hd.round hm
    exact ⟨calls, hc⟩
  | _ => exact ⟨[], rfl⟩

omit [OperatingSystem κ] in
theorem AllOpen.put {r : Relay κ} (ho : r.AllOpen) {i : Nat} {s s' : Session} {w' : World κ}
    (hs : r.sessions[i]? = some s) (ho' : s'.AllOpen) : (r.put i s' w').AllOpen := by
  intro j u hu
  rw [sessions_put hs] at hu
  split at hu
  · cases hu
    exact ho'
  · exact ho j u hu

theorem Turn.allOpen {settled : Prop} {r r' : Relay κ} {x : Input κ} {l : Log}
    {frames : List Outgoing} (h : Turn settled r x l frames r') (ho : r.AllOpen) : r'.AllOpen := by
  cases h with
  | served i hx hs hc hs' => exact ho.put hs hs'
  | opened i k kind hx hs hc hz hk hs' =>
    refine ho.put hs ?_
    rw [hs']
    exact Session.allOpen_store (ho i _ hs)
  | entered settings =>
    intro j s hj
    rw [sessions_enter] at hj
    split at hj
    · cases hj
      exact nofun
    · exact ho j s hj
  | _ => exact ho

theorem allOpen_run {r : Relay κ} (ho : r.AllOpen) (xs : List (Input κ)) : (r.run xs).AllOpen := by
  induction xs generalizing r with
  | nil => exact ho
  | cons x xs ih =>
    obtain ⟨l, h⟩ := step_turn False ho x False.elim
    exact ih (h.allOpen ho)

theorem history_run {r : Relay κ} (ho : r.AllOpen) (xs : List (Input κ)) :
    ∃ calls, (r.run xs).world.history = calls ++ r.world.history := by
  induction xs generalizing r with
  | nil => exact ⟨[], rfl⟩
  | cons x xs ih =>
    obtain ⟨l, h⟩ := step_turn False ho x False.elim
    obtain ⟨calls, hc⟩ := h.history
    obtain ⟨more, hm⟩ := ih (h.allOpen ho)
    exact ⟨more ++ calls, by rw [run_cons, hm, hc, List.append_assoc]⟩

/-- What every exchange of a run complied with, every exchange before the run did. -/
theorem throughout_before {r : Relay κ} (ho : r.AllOpen) {p : Exchange → History → Bool}
    {xs : List (Input κ)} (h : History.Throughout p (r.run xs).world.history) :
    History.Throughout p r.world.history := by
  obtain ⟨calls, hc⟩ := history_run ho xs
  rw [hc] at h
  exact h.of_append

omit [OperatingSystem κ] in
theorem allOpen_start (system : κ) (maxEvents : Nat) : (start system maxEvents).AllOpen := by
  intro i s h
  cases h

/-- What every step preserves holds after every run, under assumptions on the calls that took place
in it. -/
theorem run_preserves {p : Relay κ → Prop} {q : History → Prop}
    (hq : ∀ calls h, q (calls ++ h) → q h)
    (hstep : ∀ r x l frames r', r.AllOpen → p r → Turn False r x l frames r' →
      q r'.world.history → p r')
    {r : Relay κ} (ho : r.AllOpen) (hp : p r) {xs : List (Input κ)}
    (hf : q (r.run xs).world.history) : p (r.run xs) := by
  induction xs generalizing r with
  | nil => exact hp
  | cons x xs ih =>
    obtain ⟨l, h⟩ := step_turn False ho x False.elim
    obtain ⟨calls, hc⟩ := history_run (h.allOpen ho) xs
    have hfirst : q (r.step x).1.world.history := hq calls _ (by rw [← hc]; exact hf)
    exact ih (h.allOpen ho) (hstep _ _ _ _ _ ho hp h hfirst) hf

end Relay

end SocketRelay
