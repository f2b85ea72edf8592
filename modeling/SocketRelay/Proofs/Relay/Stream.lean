import SocketRelay.Proofs.Relay.Incarnation

/-!
# The integrity of outbound streams

What a client gives a socket to send is a stream: the data of every request that was granted, and of
a request that was refused for want of room the part that the system had taken already. The relay
writes some bytes at once and keeps others until the connect is decided and the system has room.

Nothing is lost, repeated or put out of order on the way. While a socket is there, the bytes that
the system took and the bytes that wait are the stream; once it is gone, the system took a prefix.
-/
namespace SocketRelay.Relay
open History (OpensFresh ModifiesListed openings sentOn dealings Past)
open VirtualSocket (Deed Balanced Behind)
variable {κ : Type} {ctx : SocketContext} {i : Nat} {k : SocketId} {v : VirtualSocket}

/-- The balance of the stream, and from some moment on the real socket behind it. -/
def Carried (real : Option (Descriptor × Nat)) (h : History) (v : VirtualSocket) (t : Traffic) :
    Prop :=
  Balanced h v t.accepted ∧
    ∀ d n, real = some (d, n) → v.descriptor = some d ∧ openings d h = n

/-- The real socket is gone, and the system took a prefix of the stream. -/
def CutOff (real : Option (Descriptor × Nat)) (h : History) (t : Traffic) : Prop :=
  ∀ d n, real = some (d, n) → Past d n h ∧ sentOn d n h <+: t.accepted

theorem stream_biography (ctx : SocketContext) (real : Option (Descriptor × Nat)) :
    Biography ctx False (fun h => OpensFresh h ∧ ModifiesListed h) (Carried real)
      (CutOff real) where
  suffix _ _ hq := ⟨hq.1.of_append, hq.2.of_append⟩
  deed := by
    intro v v' r r' calls t t' h hsound hopen hc hd hq
    obtain ⟨hb, hreal⟩ := hc
    constructor
    · intro hopen'
      exact ⟨hd.balanced hb hopen', Behind.deed hreal hd hopen'⟩
    · intro hclosed d n hdn
      obtain ⟨hv, rfl⟩ := hreal d n hdn
      exact ⟨hd.past hopen hclosed hv, hd.cut_off hb hopen hclosed hv⟩
  others := by
    intro v t h calls hc hsame
    obtain ⟨hb, hreal⟩ := hc
    refine ⟨⟨hb.bare, fun d hv => ?_⟩, Behind.spared hreal hsame⟩
    rw [(hsame d hv).openings, (hsame d hv).sentOn]
    exact hb.held d hv
  later := by
    intro t h calls hc hpast d n hdn
    obtain ⟨hp, hs⟩ := hc d n hdn
    refine ⟨hp.append calls, ?_⟩
    rw [History.sentOn_eq_dealings, hpast d n hp, ← History.sentOn_eq_dealings]
    exact hs
  fresh := .inl fun _ hq => hq.1
  arming := .inl fun _ hq => hq

variable [OperatingSystem κ]

/-- What is past stays as it is in any run. -/
theorem Owned.run_past {r : Relay κ} (h : r.Owned) (hopen : r.AllOpen) {xs : List (Input κ)}
    (hf : OpensFresh (r.run xs).world.history) {d : Descriptor} {n : Nat}
    (hp : Past d n r.world.history) :
    dealings d n (r.run xs).world.history = dealings d n r.world.history := by
  induction xs generalizing r with
  | nil => rfl
  | cons x xs ih =>
    obtain ⟨l, hturn⟩ := step_turn False hopen x False.elim
    have hfirst : OpensFresh (r.step x).1.world.history :=
      throughout_before (hturn.allOpen hopen) hf
    obtain ⟨hp', hsame⟩ := h.turn_past hturn hfirst d n hp
    exact (ih (h.turn hturn hfirst) (hturn.allOpen hopen) hf hp').trans hsame

/-- The balance of a stream goes on through a run. -/
theorem Owned.balanced_run {r : Relay κ} (h : r.Owned) (hopen : r.AllOpen)
    (hv : r.socket? i k = some v) {stream : Bytes} (hb : Balanced r.world.history v stream)
    {xs : List (Input κ)} (hk : r.keeps i k xs) (hf : OpensFresh (r.run xs).world.history)
    (hm : ModifiesListed (r.run xs).world.history) :
    ∃ v', (r.run xs).socket? i k = some v' ∧
      Balanced (r.run xs).world.history v' (stream ++ r.acceptedIn i k xs) := by
  obtain ⟨s, hs, hsk⟩ := socket?_eq_some.1 hv
  have hb : Carried none r.world.history v { accepted := stream } := ⟨hb, nofun⟩
  have hexists : ∃ t, Chronicle False i k r xs t := chronicle_exists hopen False.elim i k
  obtain ⟨t, ht⟩ := hexists
  obtain ⟨s', v', hs', hv', -, hb', -⟩ :=
    (stream_biography s.context none).run_alive hopen h.basis hs hsk hb ht hk ⟨hf, hm⟩
  rw [Traffic.accepted_append, ht.accepted hk] at hb'
  exact ⟨v', (socket?_of_session hs' k).trans hv', hb'⟩

/-- The step that ends a socket cuts its stream off. -/
theorem Owned.cut_off_step {r : Relay κ} (h : r.Owned) (hopen : r.AllOpen)
    (hv : r.socket? i k = some v) {stream : Bytes} (hb : Balanced r.world.history v stream)
    {d : Descriptor} (hd : v.descriptor = some d) {x : Input κ}
    (hn : (r.step x).1.socket? i k = none) (hf : OpensFresh (r.step x).1.world.history)
    (hm : ModifiesListed (r.step x).1.world.history) :
    Past d (openings d r.world.history) (r.step x).1.world.history ∧
      sentOn d (openings d r.world.history) (r.step x).1.world.history <+:
        stream ++ r.accepted i k x := by
  obtain ⟨s, hs, hsk⟩ := socket?_eq_some.1 hv
  have hk : r.socket? i k ≠ none := by
    rw [hv]
    exact nofun
  have hb : Carried (some (d, openings d r.world.history)) r.world.history v
      { accepted := stream } := ⟨hb, VirtualSocket.behind_of_held hd⟩
  obtain ⟨l, hturn⟩ := step_turn False hopen x False.elim
  obtain ⟨-, hend⟩ := (stream_biography s.context _).turn hopen h.basis hs hsk hb hturn ⟨hf, hm⟩
  have hcut := hend hn d _ rfl
  rwa [Traffic.accepted_append, hturn.accepted hk] at hcut

/-- From a moment on at which the stream balances, it is kept whole. -/
theorem Owned.stream_kept {r : Relay κ} (h : r.Owned) (hopen : r.AllOpen)
    (hv : r.socket? i k = some v) (hb : Balanced r.world.history v []) {xs later : List (Input κ)}
    (hk : r.keeps i k xs) (hf : OpensFresh (r.run (xs ++ later)).world.history)
    (hm : ModifiesListed (r.run (xs ++ later)).world.history) :
    ∃ v', (r.run xs).socket? i k = some v' ∧
      Balanced (r.run xs).world.history v' (r.acceptedIn i k xs) ∧
      ∀ d y ys, v'.descriptor = some d → later = y :: ys →
        ((r.run xs).step y).1.socket? i k = none →
        sentOn d (openings d (r.run xs).world.history) (r.run (xs ++ later)).world.history <+:
          r.acceptedIn i k xs ++ (r.run xs).accepted i k y := by
  rw [run_append] at hf hm ⊢
  have hopen₁ := allOpen_run hopen xs
  have hf₁ : OpensFresh (r.run xs).world.history := throughout_before hopen₁ hf
  have hm₁ : ModifiesListed (r.run xs).world.history := throughout_before hopen₁ hm
  obtain ⟨v', hv', hb'⟩ := h.balanced_run hopen hv hb hk hf₁ hm₁
  rw [List.nil_append] at hb'
  refine ⟨v', hv', hb', ?_⟩
  rintro d y ys hd rfl hn
  have h₁ := h.run hopen hf₁
  obtain ⟨l, hturn⟩ := step_turn False hopen₁ y False.elim
  have hopen₂ := hturn.allOpen hopen₁
  rw [run_cons] at hf hm ⊢
  have hf₂ : OpensFresh ((r.run xs).step y).1.world.history := throughout_before hopen₂ hf
  have hm₂ : ModifiesListed ((r.run xs).step y).1.world.history := throughout_before hopen₂ hm
  obtain ⟨hp, hprefix⟩ := h₁.cut_off_step hopen₁ hv' hb' hd hn hf₂ hm₂
  rw [History.sentOn_eq_dealings, (h₁.turn hturn hf₂).run_past hopen₂ hf hp,
    ← History.sentOn_eq_dealings]
  exact hprefix

/-- The stream of every incarnation of a socket is kept whole: as long as the socket is there, it is
what the system took and what waits; whenever the socket is gone, the system took a prefix. The real
socket is named by its descriptor and by how often that number had been given out. -/
theorem stream_intact {system : κ} {maxEvents : Nat} {before xs later : List (Input κ)}
    {x : Input κ}
    {r : Relay κ} {kind : SocketKind} (hr : (start system maxEvents).run (before ++ [x]) = r)
    (hi : Incarnation ((start system maxEvents).run before) i k kind x xs)
    (hf : OpensFresh (r.run (xs ++ later)).world.history)
    (hm : ModifiesListed (r.run (xs ++ later)).world.history) :
    ∃ v, (r.run xs).socket? i k = some v ∧
      Balanced (r.run xs).world.history v (r.acceptedIn i k xs) ∧
      ∀ d y ys, v.descriptor = some d → later = y :: ys →
        ((r.run xs).step y).1.socket? i k = none →
        sentOn d (openings d (r.run xs).world.history) (r.run (xs ++ later)).world.history <+:
          r.acceptedIn i k xs ++ (r.run xs).accepted i k y := by
  have hopen := allOpen_run (allOpen_start system maxEvents) before
  have hopen' := allOpen_run (allOpen_start system maxEvents) (before ++ [x])
  obtain ⟨hborn, -⟩ := hi.begins hopen
  have hkept := hi.kept
  have hstep : (((start system maxEvents).run before).step x).1 = r := by
    rw [← hr, run_append]
    rfl
  rw [hstep] at hborn hkept
  rw [hr] at hopen'
  have howned : r.Owned := by
    rw [← hr]
    refine owned_run ?_
    rw [hr]
    exact throughout_before hopen' hf
  have hb : Balanced r.world.history { id := k, kind } [] := ⟨fun _ => ⟨rfl, rfl⟩, nofun⟩
  exact howned.stream_kept hopen' hborn hb hkept hf hm

theorem stream_of_stay :
    Loopback.arrived.acceptedIn 0 1 Loopback.stay = [104, 105] ∧
      ((Loopback.arrived.run Loopback.stay).socket? 0 1).bind (·.descriptor) = some 3 ∧
      openings 3 (Loopback.arrived.run Loopback.stay).world.history = 1 ∧
      ((Loopback.arrived.run Loopback.stay).step Loopback.farewell).1.socket? 0 1 = none ∧
      (Loopback.arrived.run Loopback.stay).accepted 0 1 Loopback.farewell = [] := by
  decide +kernel

theorem stream_intact_visit : ∃ v, (Loopback.arrived.run Loopback.stay).socket? 0 1 = some v ∧
    v.descriptor = some 3 ∧
    Balanced (Loopback.arrived.run Loopback.stay).world.history v [104, 105] ∧
    sentOn 3 1 (Loopback.arrived.run (Loopback.stay ++ [Loopback.farewell])).world.history <+:
      [104, 105] := by
  obtain ⟨hstream, hd, hcount, hgone, hnone⟩ := stream_of_stay
  have hintact := stream_intact (r := Loopback.arrived) rfl Loopback.incarnation_visit
    Loopback.opensFresh_farewell
  obtain ⟨v, hv, hb, hcut⟩ := hintact Loopback.modifiesListed_farewell
  rw [hv] at hd
  have hd : v.descriptor = some 3 := hd
  have hprefix := hcut 3 _ [] hd rfl hgone
  rw [hcount, hstream, hnone] at hprefix
  rw [hstream] at hb
  exact ⟨v, hv, hd, hb, hprefix⟩

end SocketRelay.Relay
