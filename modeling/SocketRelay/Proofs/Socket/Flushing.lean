import Mathlib.Data.List.Induction
import SocketRelay.Proofs.Socket.Opening

/-!
# Writing out what waits

A flush offers the system all that waits. What the system does not take it offers again, until
nothing is left, the system has no room, or it fails. `Flushing` follows that course call by call:
the calls of a flush are sends of what the ones before them left, and the last of them tells how it
ended.

Nothing in the flush itself makes it end; the answers do. If a send that succeeds takes a byte at
least, every one of them shortens what is left, so there are no more sends than bytes. `writeFrom`
is the same writing with a cursor, where the bytes stay in place until the end and a send that took
nothing would be tried for ever: given as many sends as the flush makes, it ends as the flush does.
-/
namespace SocketRelay

theorem Errno.wouldBlock_iff {e : Errno} : e.wouldBlock ↔ e = again ∨ e = interrupted := by
  simp [wouldBlock]

/-- A send of some bytes that succeeds takes one of them at least, and no more than there are. -/
def Exchange.takesSome : Exchange → Bool
  | ⟨.send _ data, .ok n⟩ => data.isEmpty || (1 ≤ n && n ≤ data.length)
  | _ => true

theorem Exchange.takesSome_send {d : Descriptor} {data : Bytes} {n : Nat} (hdata : data ≠ [])
    (h : Exchange.takesSome ⟨.send d data, .ok n⟩ = true) : 1 ≤ n ∧ n ≤ data.length := by
  cases data with
  | nil => exact (hdata rfl).elim
  | cons byte data => simpa [takesSome] using h

namespace VirtualSocket
open SocketRelay.Action (Ends bind_of_eq)
open History (taken taken_append)

/-- How a flush goes: its calls, newest first, and its result. -/
inductive Flushing (d : Descriptor) : Bytes → List Exchange → Except Errno Bytes → Prop
  | done : Flushing d [] [] (.ok [])
  | waits {data} (e : Errno) : data ≠ [] → e.wouldBlock →
      Flushing d data [⟨.send d data, .error e⟩] (.ok data)
  | fails {data} (e : Errno) : data ≠ [] → ¬ e.wouldBlock →
      Flushing d data [⟨.send d data, .error e⟩] (.error e)
  /-- Nothing was taken, though the send succeeded. -/
  | stalls {data} : data ≠ [] → Flushing d data [⟨.send d data, .ok 0⟩] (.ok data)
  | takes {data calls result} (n : Nat) : data ≠ [] → n ≠ 0 →
      Flushing d (data.drop n) calls result →
      Flushing d data (calls ++ [⟨.send d data, .ok n⟩]) result

variable {d : Descriptor} {data rest : Bytes} {calls : List Exchange} {e : Errno}
variable {result : Except Errno Bytes}

/-- The first send took a part, and the others account for what it left. -/
theorem taken_takes {n : Nat} (h : taken calls ++ rest = data.drop n) :
    taken (calls ++ [⟨.send d data, .ok n⟩]) ++ rest = data := by
  rw [taken_append, List.append_assoc, h]
  exact List.take_append_drop n data

theorem Flushing.offers (h : Flushing d data calls result) {later earlier : List Exchange}
    {x : Exchange} (hx : calls = later ++ x :: earlier) :
    ∃ left answer, x = ⟨.send d left, answer⟩ ∧ taken earlier ++ left = data := by
  induction h generalizing later x earlier with
  | done => simp at hx
  | @waits data e | @fails data e | @stalls data =>
    have hsingle := List.append_eq_singleton_iff.1 hx.symm
    obtain ⟨rfl, hx⟩ := hsingle.resolve_right (by simp)
    cases hx
    exact ⟨data, _, rfl, rfl⟩
  | @takes data calls result n _ _ _ ih =>
    cases earlier using List.reverseRecOn with
    | nil =>
      obtain ⟨-, hx⟩ := List.append_inj' hx rfl
      cases hx
      exact ⟨data, _, rfl, rfl⟩
    | append_singleton earlier first =>
      rw [← List.cons_append, ← List.append_assoc] at hx
      obtain ⟨hcalls, hfirst⟩ := List.append_inj' hx rfl
      cases hfirst
      obtain ⟨left, answer, hleft, htaken⟩ := ih hcalls
      exact ⟨left, answer, hleft, taken_takes htaken⟩

theorem Flushing.kept (h : Flushing d data calls (.ok rest)) : taken calls ++ rest = data := by
  generalize hresult : Except.ok rest = result at h
  induction h with
  | done | waits | stalls =>
    cases hresult
    rfl
  | fails => cases hresult
  | takes n _ _ _ ih => exact taken_takes (ih hresult)

theorem Flushing.length_le (h : Flushing d data calls result)
    (hs : ∀ x ∈ calls, x.takesSome) : calls.length ≤ data.length := by
  induction h with
  | done => exact Nat.le_refl 0
  | waits _ hdata | fails _ hdata | stalls hdata => exact List.length_pos_iff.2 hdata
  | takes n hdata _ _ ih =>
    obtain ⟨hlater, hfirst⟩ := List.forall_mem_append.1 hs
    have hle := ih hlater
    have htaken := Exchange.takesSome_send hdata (hfirst _ List.mem_cons_self)
    rw [List.length_drop] at hle
    rw [List.length_append, List.length_singleton]
    omega

/-- Something is left only if the system had no room for it when it was asked last. -/
theorem Flushing.waited (h : Flushing d data calls (.ok rest)) (hs : ∀ x ∈ calls, x.takesSome)
    (hrest : rest ≠ []) :
    ∃ e : Errno, e.wouldBlock ∧ calls.head? = some ⟨.send d rest, .error e⟩ := by
  generalize hresult : Except.ok rest = result at h
  induction h with
  | done =>
    cases hresult
    exact (hrest rfl).elim
  | waits e hdata he =>
    cases hresult
    exact ⟨e, he, rfl⟩
  | fails => cases hresult
  | stalls hdata =>
    have htaken := Exchange.takesSome_send hdata (hs _ List.mem_cons_self)
    omega
  | takes n hdata _ _ ih =>
    obtain ⟨e, he, hlast⟩ := ih (List.forall_mem_append.1 hs).1 hresult
    refine ⟨e, he, ?_⟩
    rw [List.head?_append, hlast]
    rfl

theorem Flushing.failed (h : Flushing d data calls (.error e)) :
    ¬ e.wouldBlock ∧ ∃ left, calls.head? = some ⟨.send d left, .error e⟩ ∧
      taken calls ++ left = data := by
  generalize hresult : Except.error e = result at h
  induction h with
  | done | waits | stalls => cases hresult
  | @fails data e' hdata he =>
    cases hresult
    exact ⟨he, data, rfl, rfl⟩
  | takes n _ _ _ ih =>
    obtain ⟨he, left, hlast, hleft⟩ := ih hresult
    refine ⟨he, left, ?_, taken_takes hleft⟩
    rw [List.head?_append, hlast]
    rfl

variable {κ : Type} {w w' : World κ} {cursor sends n : Nat}
variable [OperatingSystem κ]

/-- Write in at most so many sends. The cursor moves over what the system has taken; only at the end
are the bytes behind it dropped. There is no result if the sends do not suffice. -/
def writeFrom (d : Descriptor) (data : Bytes) (cursor : Nat) :
    Nat → Action κ (Option (Except Errno Bytes))
  | 0 => return if cursor < data.length then none else some (.ok (data.drop cursor))
  | sends + 1 => do
    if cursor < data.length then
      match ← perform (.send d (data.drop cursor)) with
      | .ok n => writeFrom d data (cursor + n) sends
      | .error e => return some (if e.wouldBlock then .ok (data.drop cursor) else .error e)
    else return some (.ok (data.drop cursor))

theorem writeFrom_end (hdata : data.drop cursor = []) :
    writeFrom d data cursor sends w = (some (.ok []), w) := by
  have hcursor : ¬ cursor < data.length := Nat.not_lt.2 (List.drop_eq_nil_iff.1 hdata)
  cases sends with
  | zero | succ sends =>
    rw [writeFrom, if_neg hcursor, hdata]
    rfl

theorem writeFrom_ok (hdata : data.drop cursor ≠ [])
    (hp : perform (.send d (data.drop cursor)) w = (.ok n, w')) :
    writeFrom d data cursor (sends + 1) w = writeFrom d data (cursor + n) sends w' := by
  have hcursor : cursor < data.length := Nat.not_le.1 (mt List.drop_eq_nil_iff.2 hdata)
  rw [writeFrom, if_pos hcursor, bind_of_eq hp]

theorem writeFrom_error (hdata : data.drop cursor ≠ [])
    (hp : perform (.send d (data.drop cursor)) w = (.error e, w')) :
    writeFrom d data cursor (sends + 1) w =
      (some (if e.wouldBlock then .ok (data.drop cursor) else .error e), w') := by
  have hcursor : cursor < data.length := Nat.not_le.1 (mt List.drop_eq_nil_iff.2 hdata)
  rw [writeFrom, if_pos hcursor, bind_of_eq hp]
  rfl

/-- The course of a flush, which a writing with a cursor goes as well. -/
theorem flush_course (d : Descriptor) (data : Bytes) (w : World κ) :
    (flush d data).Ends w fun result w' => ∃ calls, w.Moved calls w.reactor w' ∧
      Flushing d data calls result ∧ ((∀ x ∈ calls, x.takesSome) →
        ∀ whole cursor sends, whole.drop cursor = data → calls.length ≤ sends →
          writeFrom d whole cursor sends w = (some result, w')) := by
  unfold flush
  split
  · rename_i hdata
    subst hdata
    exact Ends.pure ⟨[], .refl w, .done, fun _ whole cursor sends hwhole _ => writeFrom_end hwhole⟩
  rename_i hdata
  -- The writing has to get the very answer that the flush got, so the step keeps its equation.
  refine Ends.bind (p := fun answer w₁ => perform (.send d data) w = (answer, w₁) ∧
    w.Moved [⟨.send d data, answer⟩] w.reactor w₁) ⟨rfl, rfl, rfl, rfl, rfl⟩ ?_
  intro answer w₁ hafter
  obtain ⟨hp, h₁⟩ := hafter
  cases answer with
  | error e =>
    have hwrite : ∀ whole cursor sends, whole.drop cursor = data → 1 ≤ sends →
        writeFrom d whole cursor sends w =
          (some (if e.wouldBlock then .ok data else .error e), w₁) := by
      rintro whole cursor sends rfl hsends
      obtain ⟨later, rfl⟩ := Nat.exists_eq_add_one.2 hsends
      exact writeFrom_error hdata hp
    dsimp only
    split
    · rename_i he
      rw [if_pos he] at hwrite
      exact Ends.pure ⟨_, h₁, .waits e hdata he, fun _ => hwrite⟩
    · rename_i he
      rw [if_neg he] at hwrite
      exact Ends.pure ⟨_, h₁, .fails e hdata he, fun _ => hwrite⟩
  | ok n =>
    have hpos := List.length_pos_iff.2 hdata
    dsimp only
    split
    · rename_i hn
      subst hn
      refine Ends.pure ⟨_, h₁, .stalls hdata, fun hs => ?_⟩
      have htaken := Exchange.takesSome_send hdata (hs _ List.mem_cons_self)
      omega
    rename_i hn
    refine (flush_course d (data.drop n) w₁).mono fun result w' hafter => ?_
    obtain ⟨calls, h₂, hcourse, hwrites⟩ := hafter
    rw [h₁.reactor] at h₂
    refine ⟨_, h₁.trans h₂, .takes n hdata hn hcourse, ?_⟩
    rintro hs whole cursor sends rfl hsends
    rw [List.length_append, List.length_singleton] at hsends
    obtain ⟨later, rfl⟩ := Nat.exists_eq_add_one.2 (Nat.lt_of_lt_of_le (Nat.succ_pos _) hsends)
    rw [writeFrom_ok hdata hp]
    exact hwrites (List.forall_mem_append.1 hs).1 whole (cursor + n) later List.drop_drop.symm
      (Nat.le_of_succ_le_succ hsends)
termination_by data.length
decreasing_by
  simp only [List.length_drop]
  omega

/-- What the calls and the result of a flush have to do with the bytes that waited. -/
structure Exact (d : Descriptor) (data : Bytes) (calls : List Exchange)
    (result : Except Errno Bytes) : Prop where
  offers : ∀ later x earlier, calls = later ++ x :: earlier →
    ∃ left answer, x = ⟨.send d left, answer⟩ ∧ taken earlier ++ left = data
  few : calls.length ≤ data.length
  kept : ∀ rest, result = .ok rest → taken calls ++ rest = data
  waited : ∀ rest, result = .ok rest → rest ≠ [] → ∃ e,
    (e = Errno.again ∨ e = Errno.interrupted) ∧ calls.head? = some ⟨.send d rest, .error e⟩
  failed : ∀ e, result = .error e → ¬ (e = Errno.again ∨ e = Errno.interrupted) ∧
    taken calls <+: data ∧ ∃ left, calls.head? = some ⟨.send d left, .error e⟩

omit [OperatingSystem κ] in
theorem Flushing.settled (h : Flushing d data calls result) (hs : ∀ x ∈ calls, x.takesSome) :
    Exact d data calls result := by
  refine ⟨fun later x earlier => h.offers, h.length_le hs, ?_, ?_, ?_⟩
  · rintro rest rfl
    exact h.kept
  · rintro rest rfl hrest
    obtain ⟨e, he, hlast⟩ := h.waited hs hrest
    exact ⟨e, Errno.wouldBlock_iff.1 he, hlast⟩
  · rintro e rfl
    obtain ⟨he, left, hlast, hleft⟩ := h.failed
    exact ⟨mt Errno.wouldBlock_iff.2 he, ⟨left, hleft⟩, left, hlast⟩

/-- The socket keeps what a flush leaves; a flush that fails ends it. -/
theorem flushOutbound_eq {v : VirtualSocket} (hv : v.live? = some d) (w : World κ) :
    v.flushOutbound w = match (flush d v.outbound w).1 with
      | .ok rest => (({ v with outbound := rest }, []), (flush d v.outbound w).2)
      | .error _ => v.peerGone (flush d v.outbound w).2 := by
  have hflush : flush d v.outbound w = ((flush d v.outbound w).1, (flush d v.outbound w).2) := rfl
  unfold flushOutbound
  rw [hv]
  refine (bind_of_eq hflush).trans ?_
  cases (flush d v.outbound w).1 <;> rfl

theorem Sound.flushOutbound_bare {v : VirtualSocket} (h : v.Sound) (hv : v.live? = none)
    (w : World κ) : v.outbound = [] ∧ v.flushOutbound w = ((v, []), w) := by
  have hbare : v.descriptor = none := by
    cases hc : v.closed with
    | true => exact h.released hc
    | false => simpa [live?, hc] using hv
  obtain ⟨-, -, -, hqueue⟩ := h.bare hbare
  refine ⟨hqueue, ?_⟩
  unfold flushOutbound
  rw [hv]
  rfl

/-- A flush makes only sends. If each that succeeds takes a byte at least, there are no more of them
than bytes, a writing with a cursor ends after as many and in the same way, and what was taken and
what is left are what waited. The socket keeps what is left; a flush that failed ends it. Without a
descriptor nothing waits. -/
theorem flush_exact (d : Descriptor) (data : Bytes) (w : World κ) :
    (flush d data).Ends w fun result w' => ∃ calls, w.Moved calls w.reactor w' ∧
      ((∀ x ∈ calls, x.takesSome) → Exact d data calls result ∧
        ∀ sends, calls.length ≤ sends → writeFrom d data 0 sends w = (some result, w')) ∧
      (∀ v : VirtualSocket, v.live? = some d → v.outbound = data →
        v.flushOutbound w = match result with
          | .ok rest => (({ v with outbound := rest }, []), w')
          | .error _ => v.peerGone w') ∧
      ∀ ctx v, Reached κ ctx v → v.live? = none →
        v.outbound = [] ∧ v.flushOutbound w = ((v, []), w) := by
  obtain ⟨calls, hmoved, hcourse, hwrites⟩ := flush_course d data w
  refine ⟨calls, hmoved, fun hs => ⟨hcourse.settled hs, fun sends => ?_⟩, fun v hv hq => ?_,
    fun ctx v hreached hv => ?_⟩
  · exact hwrites hs data 0 sends rfl
  · subst hq
    exact flushOutbound_eq hv w
  · exact hreached.sound.1.flushOutbound_bare hv w

end VirtualSocket

namespace Loopback

/-- A stream is being opened where only two bytes at a time can be on their way. -/
def windowOfTwo : World Network :=
  let connect := VirtualSocket.Operation.connect [127, 0, 0, 1] 23911
  (connect.run standardContext { id := 1, kind := .tcp }
    { listeningWorld with system := { listening with window := 2 } }).2

/-- The system takes two of three bytes, and the third one waits. -/
theorem flush_exact_windowOfTwo : ∃ calls,
    (VirtualSocket.flush 3 [1, 2, 3] windowOfTwo).2.history = calls ++ windowOfTwo.history ∧
      (∀ x ∈ calls, x.takesSome) ∧ History.taken calls = [1, 2] ∧
      VirtualSocket.Exact 3 [1, 2, 3] calls (.ok [3]) ∧
      VirtualSocket.writeFrom 3 [1, 2, 3] 0 3 windowOfTwo =
        (some (.ok [3]), (VirtualSocket.flush 3 [1, 2, 3] windowOfTwo).2) := by
  obtain ⟨calls, hmoved, hexact, -⟩ := VirtualSocket.flush_exact 3 [1, 2, 3] windowOfTwo
  have hh := hmoved.history
  have hcalls := World.eq_take_of_history hh
  have hresult : (VirtualSocket.flush 3 [1, 2, 3] windowOfTwo).1 = .ok [3] := by decide +kernel
  have hsome : ∀ x ∈ calls, x.takesSome := by
    rw [hcalls]
    decide +kernel
  have htaken : History.taken calls = [1, 2] := by
    rw [hcalls]
    decide +kernel
  obtain ⟨hflushed, hwrites⟩ := hexact hsome
  rw [hresult] at hflushed hwrites
  exact ⟨calls, hh, hsome, htaken, hflushed, hwrites 3 hflushed.few⟩

end Loopback

end SocketRelay
