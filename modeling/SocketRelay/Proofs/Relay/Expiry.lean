import SocketRelay.Proofs.Relay.Ownership
import SocketRelay.Proofs.Session.Expiry

/-!
# Connects that time out

The expiry of connects in any session that a relay can have: it ends exactly the sockets whose
connect has been pending for the timeout, gives up exactly their descriptors, and can be repeated,
delayed or done in two steps without any difference in the end.
-/
namespace SocketRelay
open History (OpensFresh openDescriptors watch?)
open Protocol (Event)
open Session (Expired stalledAmong)

namespace Relay
variable {κ : Type} [OperatingSystem κ] {r : Relay κ} {i : Nat} {s : Session} {timeout : Nat}

omit [OperatingSystem κ] in
theorem tidy (ho : r.AllOpen) (hv : r.AllSound) (hs : r.sessions[i]? = some s) : s.Tidy where
  allOpen := ho i s hs
  numbered k v h := (hv i k v ((socket?_of_session hs k).trans h)).2

/-- The expiry of the connects of a session, at any instant and with its sockets visited in any
order. -/
structure Expires (r : Relay κ) (i : Nat) (s : Session) (timeout : Nat) : Prop where
  /-- The session is left and the frames are written as they should be, by the calls that should be
  made. -/
  exact : ∀ now order, order.Perm s.sockets.rows →
    (s.expireInOrder order now).Ends r.world (Expired timeout now s order r.world)
  /-- The real socket of a stalled one is registered no longer, nor open, nor watched. -/
  released : ∀ now order, order.Perm s.sockets.rows →
    (s.expireInOrder order now).Ends r.world fun _ w' =>
      ∀ k v, s.sockets.get? k = some v → v.stalled timeout now → ∃ d, v.descriptor = some d ∧
        w'.reactor.table.get? d = none ∧ d ∉ openDescriptors w'.history ∧
        watch? d w'.history = none
  /-- The real socket of any other one, in this session or elsewhere, is as it was. -/
  spared : OpensFresh r.world.history → ∀ now order, order.Perm s.sockets.rows →
    (s.expireInOrder order now).Ends r.world fun _ w' =>
      ∀ j k v d, r.socket? j k = some v → v.descriptor = some d →
        (j = i → v.stalled timeout now = false) →
        w'.reactor.table.get? d = r.world.reactor.table.get? d ∧
        d ∈ openDescriptors w'.history ∧ watch? d w'.history = watch? d r.world.history
  /-- A second time nothing happens, whatever the order and the world are then. -/
  again : ∀ now order, order.Perm s.sockets.rows →
    (s.expireInOrder order now).Ends r.world fun first _ =>
      ∀ order', order'.Perm first.1.session.sockets.rows → ∀ w : World κ,
        first.1.session.expireInOrder order' now w = (({ session := first.1.session }, 0), w)
  /-- Two expiries do what the later one does alone. -/
  twice : ∀ now later order both, now ≤ later → order.Perm s.sockets.rows →
    both.Perm s.sockets.rows →
    (s.expireInOrder order now).Ends r.world fun first w₁ =>
      ∀ order', order'.Perm first.1.session.sockets.rows →
        (first.1.session.expireInOrder order' later).Ends w₁ fun second w₂ =>
          (s.expireInOrder both later).Ends r.world fun once w' =>
            second.1.session = once.1.session ∧ w₂.reactor = w'.reactor ∧
              (first.1.frames ++ second.1.frames).Perm once.1.frames ∧
              first.2 + second.2 = once.2

theorem mem_descriptorsOf {order : List (SocketId × VirtualSocket)} (hp : order.Perm s.sockets.rows)
    {now : Nat} {d : Descriptor} : d ∈ Session.descriptorsOf (stalledAmong timeout now order) ↔
      ∃ k v, s.sockets.get? k = some v ∧ v.stalled timeout now ∧ v.descriptor = some d := by
  simp only [Session.descriptorsOf, stalledAmong, List.mem_filterMap, List.mem_filter, Prod.exists,
    hp.mem_iff, Table.get?_eq_some_iff, and_assoc]

theorem expires (ho : r.AllOpen) (hv : r.AllSound)
    (howned : OpensFresh r.world.history → r.Owned) (hs : r.sessions[i]? = some s)
    (ht : s.settings.connectTimeout = some timeout) : r.Expires i s timeout := by
  have htidy := tidy ho hv hs
  have hexact : ∀ now order, order.Perm s.sockets.rows →
      (s.expireInOrder order now).Ends r.world (Expired timeout now s order r.world) :=
    fun _ _ hp => Session.expireInOrder_ends htidy ht hp
  refine ⟨hexact, fun now order hp => ?_, fun hf now order hp => ?_, fun now order hp => ?_,
    fun now later order both hle hp hboth => ?_⟩
  · refine (hexact now order hp).mono fun _ w' h k v hk hstalled => ?_
    have hheld : v.descriptor ≠ none := by
      intro hbare
      have hnone := ((hv i k v ((socket?_of_session hs k).trans hk)).1.bare hbare).2.1
      rw [VirtualSocket.stalled, hnone] at hstalled
      cases hstalled
    obtain ⟨d, hd⟩ := Option.ne_none_iff_exists'.1 hheld
    exact ⟨d, hd, h.world.gone ((mem_descriptorsOf hp).2 ⟨k, v, hk, hstalled, hd⟩)⟩
  · have howned := howned hf
    refine (hexact now order hp).mono fun _ w' h j k v d hk hd hother => ?_
    have hapart : d ∉ Session.descriptorsOf (stalledAmong timeout now order) := by
      intro hmem
      obtain ⟨m, u, hm, hstalled, hud⟩ := (mem_descriptorsOf hp).1 hmem
      obtain ⟨rfl, rfl⟩ := howned.alone hk hd ((socket?_of_session hs m).trans hm) hud
      rw [socket?_of_session hs, hm] at hk
      rw [← Option.some.inj hk, hstalled] at hother
      cases hother rfl
    obtain ⟨-, -, -, -, -, -, hopen, -⟩ := howned.row hk hd
    obtain ⟨hrow, hopened, hwatched⟩ := h.world.kept hapart
    exact ⟨hrow, hopened hopen, hwatched⟩
  · refine (hexact now order hp).mono fun first _ h order' hp' w => ?_
    obtain ⟨htidy', ht'⟩ := h.next htidy ht
    refine Session.expireInOrder_idle (htidy'.allOpen.holds hp') ht' ?_ w
    rw [h.session] at hp'
    exact Session.stalledAmong_withoutStalled hp'
  · refine (hexact now order hp).mono fun first w₁ h₁ order' hp' => ?_
    obtain ⟨htidy', ht'⟩ := h₁.next htidy ht
    refine (Session.expireInOrder_ends htidy' ht' hp').mono fun second w₂ h₂ => ?_
    exact (hexact later both hboth).mono fun once w' h₃ => h₁.twice hle hp hp' hboth h₂ h₃

/-- The expiry of connects is exact, can be repeated, and can be done in steps; without a timeout it
does nothing. -/
theorem expiry_exact {system : κ} {maxEvents : Nat} {xs : List (Input κ)}
    (hs : ((start system maxEvents).run xs).sessions[i]? = some s) :
    (∀ now order, s.expireStalledConnects (κ := κ) now order =
      s.expireInOrder (order.visit s.sockets) now) ∧
    (∀ timeout, s.settings.connectTimeout = some timeout →
      ((start system maxEvents).run xs).Expires i s timeout) ∧
    (s.settings.connectTimeout = none → ∀ order now (w : World κ),
      s.expireInOrder order now w = (({ session := s }, 0), w)) ∧
    ∀ k, (Event.connected k false).encode = .ok (Session.failureFrame k) := by
  have ho := allOpen_run (allOpen_start system maxEvents) xs
  have hv := (allSound_start system maxEvents).run (allOpen_start system maxEvents) xs
  refine ⟨s.expireStalledConnects_eq, fun timeout ht => expires ho hv owned_run hs ht,
    fun ht order now w => ?_, Session.encode_connected_false⟩
  unfold Session.expireInOrder
  rw [ht]
  rfl

end Relay

namespace Loopback
open Relay (Input)

/-- A client whose connects may take five milliseconds begins one. -/
def oneConnect : List (Input Network) :=
  [.enter { connectTimeout := some 5 }, asks (.socket 1 0), asks (.socket 2 0),
    asks (.connect 1 [127, 0, 0, 1] 23911)]

/-- Three milliseconds later it begins another one. -/
def twoConnects : List (Input Network) :=
  oneConnect ++ [.elapse ((Relay.start listening 8).run oneConnect).world.system 3,
    asks (.connect 2 [127, 0, 0, 1] 23911)]

/-- After five milliseconds only the first one has taken too long. -/
theorem expiry_exact_twoConnects : ∃ s,
    ((Relay.start listening 8).run twoConnects).sessions[0]? = some s ∧
    OpensFresh ((Relay.start listening 8).run twoConnects).world.history ∧
    ((Relay.start listening 8).run twoConnects).Expires 0 s 5 ∧
    (stalledAmong 5 5 s.sockets.rows).map Prod.fst = [1] ∧ s.sockets.size = 2 := by
  have hsession : (((Relay.start listening 8).run twoConnects).sessions[0]?.map fun s =>
      (s.settings.connectTimeout, (stalledAmong 5 5 s.sockets.rows).map Prod.fst,
        s.sockets.size)) = some (some 5, [1], 2) := by
    decide +kernel
  obtain ⟨s, hs, hfacts⟩ := Option.map_eq_some_iff.1 hsession
  simp only [Prod.mk.injEq] at hfacts
  obtain ⟨ht, hstalled, hsize⟩ := hfacts
  exact ⟨s, hs, by decide +kernel, (Relay.expiry_exact hs).2.1 5 ht, hstalled, hsize⟩

end Loopback

end SocketRelay
