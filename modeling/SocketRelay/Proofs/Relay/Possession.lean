import Mathlib.Data.List.Nodup
import Mathlib.Data.List.Perm.Subperm
import SocketRelay.Proofs.Relay.Isolation

/-!
# The accounts of a relay

What the sockets of all sessions hold, listed with descriptor, token, number and mailbox, is what
the reactor's table lists, and the descriptors in it are the ones that are open: nothing is listed
twice and nothing is missing. A session has no more of either than it may have sockets, and one that
has closed has nothing.
-/
namespace SocketRelay
open History (OpensFresh openDescriptors watch?)

/-- A descriptor with what is known of its holder. -/
structure Possession where
  descriptor : Descriptor
  token : Option Token
  socket : SocketId
  mailbox : MailboxId
  deriving DecidableEq, Repr

def Reactor.possessions (r : Reactor) : List Possession :=
  r.table.rows.map fun row => ⟨row.1, some row.2.token, row.2.socket, row.2.mailbox⟩

def Session.possessions (s : Session) : List Possession :=
  s.sockets.values.filterMap fun v => v.descriptor.map fun d => ⟨d, v.token, v.id, s.mailbox⟩

namespace Relay
variable {κ : Type}

def possessions (r : Relay κ) : List Possession := r.sessions.flatMap Session.possessions

/-- Sockets, table and open descriptors agree one for one, and no session has too much. -/
structure Accounted (r : Relay κ) : Prop where
  registered : r.world.reactor.possessions.Perm r.possessions
  opened : (openDescriptors r.world.history).Perm (r.possessions.map Possession.descriptor)
  distinct : (r.possessions.map Possession.descriptor).Nodup
  watched : ∀ d, watch? d r.world.history ≠ none ↔ d ∈ openDescriptors r.world.history
  mailboxes : r.sessions.map Session.mailbox = List.range r.sessions.length
  closed : ∀ s ∈ r.sessions, s.closed → s.possessions = []
  limited : ∀ s ∈ r.sessions, s.socketCount ≤ s.settings.maxSockets ∧
    s.possessions.length ≤ s.settings.maxSockets ∧
    (r.world.reactor.possessions.filter (·.mailbox = s.mailbox)).length ≤ s.settings.maxSockets

/-- A session is gone with all it held, and the others are as they were. -/
structure Left (i : Nat) (r r' : Relay κ) : Prop where
  others : ∀ j, j ≠ i → r'.sessions[j]? = r.sessions[j]? ∧
    r'.world.mailbox j = r.world.mailbox j
  session : ∀ s, r'.sessions[i]? = some s → s.closed ∧ s.sockets = Table.empty
  rows : ∀ d registration, r'.world.reactor.table.get? d = some registration ↔
    r.world.reactor.table.get? d = some registration ∧ registration.mailbox ≠ i
  watches : ∀ d registration, r'.world.reactor.table.get? d = some registration →
    watch? d r'.world.history = watch? d r.world.history
  opened : ∀ d, d ∈ openDescriptors r'.world.history ↔ d ∈ openDescriptors r.world.history ∧
    ∀ registration, r.world.reactor.table.get? d = some registration → registration.mailbox ≠ i

variable {r : Relay κ}

theorem mem_session_possessions {s : Session} {p : Possession} : p ∈ s.possessions ↔
    ∃ k v, s.sockets.get? k = some v ∧ v.descriptor = some p.descriptor ∧ v.token = p.token ∧
      v.id = p.socket ∧ s.mailbox = p.mailbox := by
  simp only [Session.possessions, Table.values, List.mem_filterMap, List.mem_map,
    Option.map_eq_some_iff, Table.get?_eq_some_iff]
  constructor
  · intro hmem
    obtain ⟨v, ⟨⟨k, v'⟩, hrow, rfl⟩, d, hd, rfl⟩ := hmem
    exact ⟨k, v', hrow, hd, rfl, rfl, rfl⟩
  · intro hmem
    obtain ⟨k, v, hrow, hd, ht, hid, hm⟩ := hmem
    exact ⟨v, ⟨(k, v), hrow, rfl⟩, p.descriptor, hd, by rw [ht, hid, hm]⟩

theorem mem_registered {r : Reactor} {p : Possession} : p ∈ r.possessions ↔
    ∃ registration, r.table.get? p.descriptor = some registration ∧
      p = ⟨p.descriptor, some registration.token, registration.socket, registration.mailbox⟩ := by
  simp only [Reactor.possessions, List.mem_map, Table.get?_eq_some_iff]
  constructor
  · intro hmem
    obtain ⟨⟨d, registration⟩, hrow, rfl⟩ := hmem
    exact ⟨registration, hrow, rfl⟩
  · intro hmem
    obtain ⟨registration, hrow, hp⟩ := hmem
    exact ⟨_, hrow, hp.symm⟩

theorem Owned.mem_session_possessions (h : r.Owned) {i : Nat} {s : Session}
    (hs : r.sessions[i]? = some s) {p : Possession} : p ∈ s.possessions ↔
      p.mailbox = i ∧ ∃ token, p.token = some token ∧ r.Holds i p.socket p.descriptor token := by
  rw [Relay.mem_session_possessions, (h.formed i s hs).mailbox]
  constructor
  · intro hmem
    obtain ⟨k, v, hk, hd, ht, hid, hm⟩ := hmem
    have hik : r.socket? i k = some v := (socket?_of_session hs k).trans hk
    obtain ⟨hsound, hvk⟩ := h.sound i k v hik
    obtain ⟨token, htoken⟩ := hsound.token_of_descriptor hd
    refine ⟨hm.symm, token, ht ▸ htoken, v, ?_, hd, htoken⟩
    rw [← hid, hvk, hik]
  · intro hmem
    obtain ⟨hm, token, ht, v, hv, hd, hvt⟩ := hmem
    exact ⟨p.socket, v, (socket?_of_session hs _).symm.trans hv, hd, hvt.trans ht.symm,
      (h.sound _ _ v hv).2, hm.symm⟩

theorem Owned.mem_possessions (h : r.Owned) {p : Possession} : p ∈ r.possessions ↔
    ∃ token, p.token = some token ∧ r.Holds p.mailbox p.socket p.descriptor token := by
  unfold possessions
  rw [List.mem_flatMap]
  constructor
  · intro hmem
    obtain ⟨s, hs, hp⟩ := hmem
    obtain ⟨i, hi⟩ := List.getElem?_of_mem hs
    obtain ⟨rfl, hp⟩ := (h.mem_session_possessions hi).1 hp
    exact hp
  · intro hmem
    obtain ⟨token, ht, hp⟩ := hmem
    obtain ⟨v, hv, hd⟩ := hp
    obtain ⟨s, hs, hk⟩ := socket?_eq_some.1 hv
    exact ⟨s, List.mem_of_getElem? hs, (h.mem_session_possessions hs).2
      ⟨rfl, token, ht, v, hv, hd⟩⟩

theorem Owned.nodup_session (h : r.Owned) {i : Nat} {s : Session} (hs : r.sessions[i]? = some s) :
    (s.possessions.map Possession.descriptor).Nodup := by
  have hd := List.pairwise_map.1 s.sockets.distinct
  unfold Session.possessions Table.values
  rw [List.map_filterMap, List.filterMap_map]
  refine List.pairwise_filterMap.2 (hd.imp_of_mem fun {a b} ha hb hne d hda e heb hde => hne ?_)
  -- One descriptor in two rows would have one holder under two numbers.
  have hholds : ∀ row ∈ s.sockets.rows, row.2.descriptor = some d →
      ∃ token, r.Holds i row.1 d token := by
    intro row hrow hdrow
    have hik : r.socket? i row.1 = some row.2 :=
      (socket?_of_session hs row.1).trans (Table.get?_eq_some_iff.2 hrow)
    obtain ⟨token, ht⟩ := (h.sound i row.1 row.2 hik).1.token_of_descriptor hdrow
    exact ⟨token, row.2, hik, hdrow, ht⟩
  simp only [Function.comp_apply, Option.map_map, Option.map_eq_some_iff] at hda heb
  obtain ⟨d', hd', rfl⟩ := hda
  obtain ⟨e', he', rfl⟩ := heb
  obtain ⟨t, ht⟩ := hholds a ha hd'
  obtain ⟨u, hu⟩ := hholds b hb (he'.trans (congrArg some hde.symm))
  exact (h.matched.unique ht hu).2.1

theorem Owned.nodup_descriptors (h : r.Owned) :
    (r.possessions.map Possession.descriptor).Nodup := by
  unfold possessions
  rw [List.map_flatMap, List.nodup_flatMap]
  constructor
  · intro s hs
    obtain ⟨i, hi⟩ := List.getElem?_of_mem hs
    exact h.nodup_session hi
  · refine List.pairwise_iff_getElem.2 fun i j hi hj hij d hd hd' => ?_
    obtain ⟨p, hp, rfl⟩ := List.mem_map.1 hd
    obtain ⟨p', hp', hpp⟩ := List.mem_map.1 hd'
    obtain ⟨-, t, -, ht⟩ := (h.mem_session_possessions (List.getElem?_eq_getElem hi)).1 hp
    obtain ⟨-, u, -, hu⟩ := (h.mem_session_possessions (List.getElem?_eq_getElem hj)).1 hp'
    exact Nat.ne_of_lt hij (h.matched.unique ht (hpp ▸ hu)).1

theorem nodup_registered (r : Reactor) : (r.possessions.map Possession.descriptor).Nodup := by
  have h := r.table.distinct
  rwa [Reactor.possessions, List.map_map]

theorem Owned.registered (h : r.Owned) : r.world.reactor.possessions.Perm r.possessions := by
  refine (List.perm_ext_iff_of_nodup (nodup_registered _).of_map h.nodup_descriptors.of_map).2
    fun p => ?_
  rw [mem_registered, h.mem_possessions]
  constructor
  · intro hmem
    obtain ⟨registration, hr, hp⟩ := hmem
    rw [hp]
    exact ⟨registration.token, rfl, h.matched.owner _ _ hr⟩
  · intro hmem
    obtain ⟨token, ht, hp⟩ := hmem
    obtain ⟨interest, hr⟩ := h.matched.entry _ _ _ _ hp
    exact ⟨_, hr, by rw [← ht]⟩

theorem Owned.mem_opened (h : r.Owned) (d : Descriptor) : d ∈ openDescriptors r.world.history ↔
    r.world.reactor.table.get? d ≠ none := by
  refine ⟨h.matched.opened d, fun hd => ?_⟩
  obtain ⟨registration, hr⟩ := Option.ne_none_iff_exists'.1 hd
  exact (h.matched.listed d registration hr).2.1

/-- The rows of one mailbox are no more than what its session holds. -/
theorem Owned.rows_le (h : r.Owned) {i : Nat} {s : Session} (hs : r.sessions[i]? = some s) :
    (r.world.reactor.possessions.filter (·.mailbox = s.mailbox)).length ≤ s.possessions.length := by
  rw [(h.registered.filter _).length_eq]
  refine (List.Nodup.subperm (h.nodup_descriptors.of_map.filter _) fun p hp => ?_).length_le
  simp only [List.mem_filter, decide_eq_true_eq, (h.formed i s hs).mailbox] at hp
  obtain ⟨hp, rfl⟩ := hp
  exact (h.mem_session_possessions hs).2 ⟨rfl, h.mem_possessions.1 hp⟩

theorem Owned.accounted (h : r.Owned) (hf : OpensFresh r.world.history) : r.Accounted where
  registered := h.registered
  opened := by
    refine (List.perm_ext_iff_of_nodup (History.nodup_openDescriptors hf) h.nodup_descriptors).2
      fun d => ?_
    rw [h.mem_opened, ← (h.registered.map Possession.descriptor).mem_iff, Reactor.possessions,
      List.map_map, ne_eq, Table.get?_eq_none_iff, Decidable.not_not]
    rfl
  distinct := h.nodup_descriptors
  watched d := by
    refine ⟨h.matched.watched d, fun hd => ?_⟩
    obtain ⟨registration, hr⟩ := Option.ne_none_iff_exists'.1 (h.matched.opened d hd)
    obtain ⟨-, -, armed, ha⟩ := h.matched.listed d registration hr
    simp [ha]
  mailboxes := by
    refine List.ext_getElem? fun i => ?_
    rw [List.getElem?_map]
    cases hs : r.sessions[i]? with
    | none => simpa using (List.getElem?_eq_none_iff.1 hs)
    | some s =>
      have hi := (List.getElem?_eq_some_iff.1 hs).1
      simp [(h.formed i s hs).mailbox, hi]
  closed s hs hc := by
    obtain ⟨i, hi⟩ := List.getElem?_of_mem hs
    simp only [Session.possessions, (h.formed i s hi).closed hc]
    rfl
  limited s hs := by
    obtain ⟨i, hi⟩ := List.getElem?_of_mem hs
    have hsize := (h.formed i s hi).size
    have hle : s.possessions.length ≤ s.settings.maxSockets := by
      refine Nat.le_trans (List.length_filterMap_le _ _) ?_
      rwa [Table.values, List.length_map]
    exact ⟨hsize, hle, Nat.le_trans (h.rows_le hi) hle⟩

/-- A session that has closed, with the others untouched, has left. -/
theorem Owned.left {r' : Relay κ} {i : Nat} (h : r.Owned) (h' : r'.Owned) (ha : Apart i r r')
    (hc : ∀ s, r'.sessions[i]? = some s → s.closed) : Left i r r' := by
  have hrows : ∀ d registration, r'.world.reactor.table.get? d = some registration ↔
      r.world.reactor.table.get? d = some registration ∧ registration.mailbox ≠ i := by
    intro d registration
    by_cases hm : registration.mailbox = i
    · refine ⟨fun hr => ?_, fun hr => (hr.2 hm).elim⟩
      obtain ⟨v, hv, -⟩ := h'.matched.owner d registration hr
      obtain ⟨s, hs, hk⟩ := socket?_eq_some.1 hv
      rw [hm] at hs
      rw [(h'.formed i s hs).closed (hc s hs)] at hk
      cases hk
    · rw [ha.rows d registration hm]
      exact ⟨fun hr => ⟨hr, hm⟩, And.left⟩
  refine ⟨fun j hj => ⟨ha.sessions j hj, ha.mailboxes j hj⟩, fun s hs => ?_, hrows, ?_, ?_⟩
  · exact ⟨hc s hs, (h'.formed i s hs).closed (hc s hs)⟩
  · intro d registration hr
    obtain ⟨hr, hm⟩ := (hrows d registration).1 hr
    exact ha.watches d registration hm hr
  · intro d
    rw [h'.mem_opened, h.mem_opened, Option.ne_none_iff_exists', Option.ne_none_iff_exists']
    constructor
    · intro hmem
      obtain ⟨registration, hr⟩ := hmem
      obtain ⟨hr, hm⟩ := (hrows d registration).1 hr
      exact ⟨⟨registration, hr⟩, fun other ho => by cases hr.symm.trans ho; exact hm⟩
    · intro hmem
      obtain ⟨⟨registration, hr⟩, hm⟩ := hmem
      exact ⟨registration, (hrows d registration).2 ⟨hr, hm registration hr⟩⟩

variable [OperatingSystem κ]

theorem Owned.leave {settled : Prop} {r' : Relay κ} {i : Nat} {l : Log} {frames : List Outgoing}
    {order : SocketOrder} (h : r.Owned) (ht : Turn settled r (.leave i order) l frames r')
    (hf : OpensFresh r'.world.history) : Left i r r' := by
  have h' := h.turn ht hf
  cases ht with
  | absent j hj hn =>
    cases hj
    exact h.left h' (.refl i r) fun s hs => nomatch hn.symm.trans hs
  | opened j k kind hx =>
    obtain ⟨bytes, code, hx, -⟩ := hx
    cases hx
  | served j hj hs hc hopen hacc hd he hl =>
    cases hj
    refine h.left h' (h.isolated_course hs hc hf).1 fun s hs' => ?_
    rw [sessions_put hs, if_pos rfl] at hs'
    cases hs'
    exact hl order rfl

/-- In every state that a relay reaches, its accounts are in order, and a session that leaves takes
along exactly what it held. -/
theorem possessions_accounted {system : κ} {maxEvents : Nat} {xs : List (Input κ)}
    (hf : OpensFresh ((start system maxEvents).run xs).world.history) :
    Accounted ((start system maxEvents).run xs) ∧
      ∀ ys i order, xs = ys ++ [.leave i order] →
        Left i ((start system maxEvents).run ys) ((start system maxEvents).run xs) := by
  refine ⟨(owned_run hf).accounted hf, ?_⟩
  rintro ys i order rfl
  have hopen := allOpen_run (allOpen_start system maxEvents) ys
  rw [run_append] at hf ⊢
  obtain ⟨l, ht⟩ := step_turn False hopen (.leave i order) False.elim
  obtain ⟨calls, hcalls⟩ := ht.history
  have hall : OpensFresh (calls ++ ((start system maxEvents).run ys).world.history) := hcalls ▸ hf
  have hf' := History.Throughout.of_append hall
  exact (owned_run hf').leave ht hf

theorem possessions_accounted_visit :
    OpensFresh
        ((start Loopback.listening 8).run (Loopback.visit ++ [.leave 0 .ofRows])).world.history ∧
      Accounted ((start Loopback.listening 8).run (Loopback.visit ++ [.leave 0 .ofRows])) ∧
      Left 0 ((start Loopback.listening 8).run Loopback.visit)
        ((start Loopback.listening 8).run (Loopback.visit ++ [.leave 0 .ofRows])) := by
  have hf : OpensFresh
      ((start Loopback.listening 8).run (Loopback.visit ++ [.leave 0 .ofRows])).world.history := by
    decide +kernel
  exact ⟨hf, (possessions_accounted hf).1, (possessions_accounted hf).2 _ _ _ rfl⟩

end Relay

end SocketRelay
