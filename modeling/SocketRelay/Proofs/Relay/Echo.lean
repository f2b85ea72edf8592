import SocketRelay.Proofs.Protocol.Directions
import SocketRelay.Proofs.Relay.Step
import SocketRelay.Proofs.Session.Output

/-!
# Frames that come back

A client, or whatever sits between it and the relay, may send back what a session wrote. Such a
frame is read as a request of no known method, so the session ignores it: its sockets stay as they
are, nothing is written and no call is made. The frames may come back at any time, in any order and
as often as one likes, in the midst of other inputs; the run is the same as without them.
-/
namespace SocketRelay
open Protocol (Event Request)

namespace Session

theorem onMessage_event {κ : Type} [OperatingSystem κ] (s : Session) {e : Event} {frame : Bytes}
    (h : e.encode = .ok frame) (w : World κ) : ∃ notices,
    s.onMessage frame w = ({ session := s, notices }, w) := by
  have hdecode := Request.decode_event h []
  rw [List.append_nil] at hdecode
  unfold onMessage
  split
  · exact ⟨[], rfl⟩
  · rw [hdecode]
    exact ⟨_, rfl⟩

end Session

namespace Relay
variable {κ : Type} [OperatingSystem κ]

/-- Whoever sends the frame of an event, to whatever session: nothing happens. -/
theorem step_event (r : Relay κ) (i : Nat) {e : Event} {frame : Bytes} (h : e.encode = .ok frame) :
    r.step (.frame i frame) = (r, []) := by
  change r.serve i (fun s => s.onMessage frame) = (r, [])
  cases hs : r.sessions[i]? with
  | none =>
    unfold serve
    rw [hs]
  | some s =>
    obtain ⟨notices, hsame⟩ := s.onMessage_event h r.world
    rw [serve_of_session hs, hsame, put_same hs]
    rfl

theorem encode_of_mem_step {r : Relay κ} (ho : r.AllOpen) {x : Input κ} {i : Nat} {frame : Bytes}
    (h : frame ∈ framesTo i (r.step x).2) : ∃ e : Event, e.encode = .ok frame := by
  obtain ⟨l, hturn⟩ := step_turn False ho x False.elim
  generalize (r.step x).2 = frames at h hturn
  generalize (r.step x).1 = r' at hturn
  cases hturn with
  | served =>
    rw [framesTo_outgoing] at h
    split at h
    · obtain ⟨e, -, he⟩ := Session.encode_of_mem_emit h
      exact ⟨e, he⟩
    · cases h
  | _ => cases h

/-- The second inputs are the first ones with frames put in between that the session at a position
has written by then, or that were seen before. -/
inductive Echoing (i : Nat) : Relay κ → (seen : List Bytes) → List (Input κ) → List (Input κ) → Prop
  | done {r seen} : Echoing i r seen [] []
  | input {r seen x xs ys} : Echoing i (r.step x).1 (seen ++ r.written i [x]) xs ys →
      Echoing i r seen (x :: xs) (x :: ys)
  | echo {r seen frame xs ys} : frame ∈ seen → Echoing i r seen xs ys →
      Echoing i r seen xs (.frame i frame :: ys)

section
variable {r : Relay κ} {i : Nat} {seen fs : List Bytes} {xs ys : List (Input κ)}

theorem Echoing.silent : Echoing i r seen xs xs := by
  induction xs generalizing r seen with
  | nil => exact .done
  | cons x xs ih => exact .input ih

/-- Between two runs the frames of the first may come back in any number and order. -/
theorem Echoing.between (h : ∀ frame ∈ fs, frame ∈ seen ++ r.written i xs) :
    Echoing i r seen (xs ++ ys) (xs ++ (fs.map (.frame i) ++ ys)) := by
  induction xs generalizing r seen with
  | nil =>
    rw [written, List.append_nil] at h
    induction fs with
    | nil => exact .silent
    | cons frame fs ih =>
      obtain ⟨hframe, hfs⟩ := List.forall_mem_cons.1 h
      exact .echo hframe (ih hfs)
  | cons x xs ih =>
    refine .input (ih fun frame hframe => ?_)
    have hsplit : r.written i (x :: xs) = r.written i [x] ++ (r.step x).1.written i xs := by
      simp [written]
    rw [List.append_assoc, ← hsplit]
    exact h frame hframe

/-- A run is the same with echoes and without them. -/
theorem Echoing.same (h : Echoing i r seen xs ys) (ho : r.AllOpen)
    (hseen : ∀ frame ∈ seen, ∃ e : Event, e.encode = .ok frame) :
    r.run ys = r.run xs ∧ ∀ j, r.written j ys = r.written j xs := by
  induction h with
  | done => exact ⟨rfl, fun _ => rfl⟩
  | @input r seen x xs ys _ ih =>
    obtain ⟨l, hturn⟩ := step_turn False ho x False.elim
    obtain ⟨hrun, hwritten⟩ := ih (hturn.allOpen ho) fun frame hframe => by
      rcases List.mem_append.1 hframe with hframe | hframe
      · exact hseen frame hframe
      · rw [written, written, List.append_nil] at hframe
        exact encode_of_mem_step ho hframe
    exact ⟨hrun, fun j => by rw [written, written, hwritten j]⟩
  | @echo r seen frame xs ys hframe _ ih =>
    obtain ⟨e, he⟩ := hseen frame hframe
    obtain ⟨hrun, hwritten⟩ := ih ho hseen
    have hstep := r.step_event i he
    refine ⟨by rw [run_cons, hstep, hrun], fun j => ?_⟩
    rw [written, hstep, framesTo_nil, List.nil_append, hwritten j]

theorem written_append (r : Relay κ) (i : Nat) (xs ys : List (Input κ)) :
    r.written i (xs ++ ys) = r.written i xs ++ (r.run xs).written i ys := by
  induction xs generalizing r with
  | nil => rfl
  | cons x xs ih => rw [List.cons_append, written, written, ih, List.append_assoc, run_cons]

end

/-- Every event that is short enough for a frame is, as a request, one of an unknown method; every
such request lacks, as an event, its name. So a session that gets back what it wrote does nothing:
no socket or anything else in the relay changes, no frame is written and no call is made, whether
the frames come back after a run or in the midst of it. -/
theorem echoes_ignored (system : κ) (maxEvents : Nat) :
    (∀ e : Event, e.document.layout.length < 2147483648 → ∃ frame, e.encode = .ok frame ∧
      ∀ rest, Request.decode (frame ++ rest) = .error (.unknownMethod e.method)) ∧
    (∀ q : Request, q.document.layout.length < 2147483648 → ∃ frame, q.encode = .ok frame ∧
      ∀ rest, Event.decode (frame ++ rest) = .error (.missingField "m")) ∧
    (∀ i xs (echoes : List Bytes),
      (∀ frame ∈ echoes, frame ∈ (start system maxEvents).written i xs) →
      ((start system maxEvents).run xs).run (echoes.map (.frame i)) =
          (start system maxEvents).run xs ∧
        ∀ j, ((start system maxEvents).run xs).written j (echoes.map (.frame i)) = []) ∧
    ∀ i xs ys, Echoing i (start system maxEvents) [] xs ys →
      (start system maxEvents).run ys = (start system maxEvents).run xs ∧
        ∀ j, (start system maxEvents).written j ys = (start system maxEvents).written j xs := by
  have hsame : ∀ i xs ys, Echoing i (start system maxEvents) [] xs ys → _ :=
    fun i xs ys h => h.same (allOpen_start system maxEvents) nofun
  refine ⟨fun e h => ?_, fun q h => ?_, fun i xs echoes h => ?_, hsame⟩
  · have hwrote : e.encode = .ok e.document.layout := Protocol.writeDocument_eq_ok.2 ⟨h, rfl⟩
    exact ⟨_, hwrote, Request.decode_event hwrote⟩
  · have hwrote : q.encode = .ok q.document.layout := Protocol.writeDocument_eq_ok.2 ⟨h, rfl⟩
    exact ⟨_, hwrote, Event.decode_request hwrote⟩
  · have hback : Echoing i (start system maxEvents) [] (xs ++ []) _ := .between h
    rw [List.append_nil, List.append_nil] at hback
    obtain ⟨hrun, hwritten⟩ := hsame i xs _ hback
    refine ⟨by rw [← run_append, hrun], fun j => ?_⟩
    have hall := hwritten j
    rwa [written_append, List.append_right_eq_self] at hall

end Relay

/-- The frame that tells of the connect comes back twice, before the client sends and at the end. -/
theorem Loopback.echoes_ignored_visit :
    let told := (Relay.start listening 8).written 0 (visit.take 5)
    let echoes := (told ++ told).map (Relay.Input.frame 0)
    told ≠ [] ∧
    ((Relay.start listening 8).run (visit.take 5)).run echoes =
      (Relay.start listening 8).run (visit.take 5) ∧
    (Relay.start listening 8).run (visit.take 5 ++ (echoes ++ visit.drop 5)) =
      (Relay.start listening 8).run visit ∧
    (∃ frame, (Event.recv 1 [104, 105]).encode = .ok frame ∧
      Request.decode frame = .error (.unknownMethod "recv")) ∧
    ∃ frame, (Request.send 1 [104, 105]).encode = .ok frame ∧
      Event.decode frame = .error (.missingField "m") := by
  intro told echoes
  obtain ⟨hevent, hrequest, hback, hmidst⟩ := Relay.echoes_ignored listening 8
  have htold : ∀ frame ∈ told ++ told, frame ∈ told :=
    fun frame hframe => (List.mem_append.1 hframe).elim id id
  refine ⟨by decide +kernel, (hback 0 _ _ htold).1, ?_, ?_, ?_⟩
  · have hechoing : Relay.Echoing 0 (Relay.start listening 8) [] (visit.take 5 ++ visit.drop 5) _ :=
      .between htold
    exact (hmidst 0 _ _ hechoing).1
  · obtain ⟨frame, hwrote, hread⟩ := hevent (.recv 1 [104, 105]) (by decide +kernel)
    refine ⟨frame, hwrote, ?_⟩
    rw [← frame.append_nil, hread, Event.method]
  · obtain ⟨frame, hwrote, hread⟩ := hrequest (.send 1 [104, 105]) (by decide +kernel)
    refine ⟨frame, hwrote, ?_⟩
    rw [← frame.append_nil, hread]

end SocketRelay
