import Mathlib.Data.List.Induction
import SocketRelay.Proofs.Relay.Delivery
import SocketRelay.Proofs.Relay.Enrolment

/-!
# Table and interest list

A reactor alone may be asked for anything in any order, while the rest of the program opens, uses
and closes descriptors. Its table and the interest list of the system are changed one after the
other, and every call in between may fail.

`Change` lists what one input may do to the two, and `step_change` says that there is nothing else.
That the rows are always listed, and where an entry without a row comes from, follows by induction
on the inputs. All that is assumed of the system is that a descriptor which it opens or adds was not
in the interest list.
-/
namespace SocketRelay

/-- An entry apart from whether it is armed. -/
def Watch.idle (s : Watch) : Watch := { s with armed := false }

theorem Watch.eq_of_idle {s s' : Watch} (h : s.idle = s'.idle) :
    s.bits = s'.bits ∧ s.token = s'.token := by
  cases s
  cases s'
  simpa [idle] using h

@[simp] theorem Watch.idle_afterReports (s : Watch) (reports : List (UInt32 × Token)) :
    (s.afterReports reports).idle = s.idle := by
  unfold afterReports
  split <;> rfl

namespace History
variable {t : Table Descriptor Registration} {h h' h'' : History} {d : Descriptor} {s : Watch}

/-- A descriptor that is opened or added was not in the interest list. -/
abbrev ListsFresh : History → Prop := Throughout fun x h =>
  match x with
  | ⟨.openSocket _, .ok d⟩ | ⟨.epollAdd d _ _, .ok _⟩ => watch? d h = none
  | _ => true

/-- The interest lists have the same entries, armed or not. -/
def SameEntries (h h' : History) : Prop :=
  ∀ d, (watch? d h').map Watch.idle = (watch? d h).map Watch.idle

theorem SameEntries.rfl : SameEntries h h := fun _ => Eq.refl _

theorem SameEntries.symm (hs : SameEntries h h') : SameEntries h' h := fun d => (hs d).symm

theorem SameEntries.trans (hs : SameEntries h h') (hs' : SameEntries h' h'') : SameEntries h h'' :=
  fun d => (hs' d).trans (hs d)

theorem SameEntries.entry (hs : SameEntries h h') (hd : watch? d h = some s) :
    ∃ armed, watch? d h' = some { s with armed } := by
  have hmap := hs d
  rw [hd] at hmap
  obtain ⟨s', hd', hidle⟩ := Option.map_eq_some_iff.1 hmap
  obtain ⟨hbits, htoken⟩ := Watch.eq_of_idle hidle
  refine ⟨s'.armed, hd'.trans ?_⟩
  rw [← hbits, ← htoken]

/-- A wait arms nothing and lists nothing. -/
theorem sameEntries_wait (most : Nat) (answer : Except Errno (List (UInt32 × Token)))
    (h : History) : SameEntries h (⟨.epollWait most, answer⟩ :: h) := by
  intro d
  cases answer with
  | error e => rfl
  | ok reports =>
    change ((watch? d h).map _).map _ = _
    rw [Option.map_map]
    refine congrArg (fun f => (watch? d h).map f) (funext fun s => ?_)
    exact s.idle_afterReports reports

/-- Every row is in the interest list as it stands in the table, and entries carry tokens of their
own descriptors. -/
structure Lists (t : Table Descriptor Registration) (h : History) : Prop where
  row : ∀ d registration, t.get? d = some registration →
    ∃ armed, watch? d h = some ⟨registration.interest.toEpoll, registration.token, armed⟩
  own : ∀ d s, watch? d h = some s → s.token.descriptor = d

theorem Lists.same (hl : Lists t h) (hs : SameEntries h h') : Lists t h' where
  row d registration hr := by
    obtain ⟨armed, hd⟩ := hl.row d registration hr
    exact hs.entry hd
  own d s hd := by
    obtain ⟨armed, hd'⟩ := hs.symm.entry hd
    exact hl.own d { s with armed } hd'

theorem Lists.rearmed (hl : Lists t h) {registration : Registration}
    (hr : t.get? d = some registration) (answer : Except Errno Unit) : SameEntries h
      (⟨.epollModify d registration.interest.toEpoll registration.token, answer⟩ :: h) := by
  intro e
  cases answer with
  | error _ => rfl
  | ok =>
    obtain ⟨armed, hd⟩ := hl.row d registration hr
    rw [watch?]
    split
    · rename_i hde
      rw [← hde, hd]
      rfl
    · rfl

end History

namespace Reactor
open SocketRelay.Action (Ends)
open SocketRelay.History (watch? ListsFresh SameEntries Lists Unregistered)
variable {κ : Type}

/-- What can happen to a reactor and around it. -/
inductive Input (κ : Type) where
  | register (d : Descriptor) (socket : SocketId) (mailbox : MailboxId) (interest : Interest)
  | setInterest (d : Descriptor) (interest : Interest)
  | unregister (d : Descriptor)
  | poll
  /-- A session takes a note. -/
  | take (mailbox : MailboxId)
  /-- The rest of the program makes a call. -/
  | call (c : Call)
  | elapse (system : κ) (now : Nat)

def Input.registered? : Input κ → Option Descriptor
  | .register d _ _ _ => some d
  | _ => none

/-- The rest of the program leaves the interest list to the reactor, and it closes a descriptor only
after the registration has been removed. -/
def leaves (t : Table Descriptor Registration) : Call → Bool
  | .epollAdd _ _ _ | .epollModify _ _ _ | .epollRemove _ | .epollWait _ => false
  | .close d => (t.get? d).isNone
  | _ => true

/-- Nothing is registered yet; the mailboxes may hold anything. -/
def begin (system : κ) (maxEvents : Nat) (mailboxes : Table MailboxId Mailbox) : World κ :=
  { system, reactor := ofMaxEvents maxEvents, mailboxes }

variable [OperatingSystem κ]

def step (w : World κ) : Input κ → World κ
  | .register d socket mailbox interest => (register d socket mailbox interest w).2
  | .setInterest d interest => (setInterest d interest w).2
  | .unregister d => (unregister d w).2
  | .poll => (pollOnce w).2
  | .take mailbox => (takeNote mailbox w).2
  | .call c => if leaves w.reactor.table c then (perform c w).2 else w
  | .elapse system now => { w with system, now }

def run (w : World κ) (xs : List (Input κ)) : World κ := xs.foldl step w

theorem run_append (w : World κ) (xs ys : List (Input κ)) :
    run w (xs ++ ys) = run (run w xs) ys := List.foldl_append

variable {w w' : World κ} {x : Input κ} {d : Descriptor} {s : Watch}

/-- A registration is removed, but the system does not let go of the descriptor. -/
def RemovalFailed (w : World κ) (d : Descriptor) (w' : World κ) : Prop :=
  (∃ registration, w.reactor.table.get? d = some registration) ∧
    w'.reactor.table = w.reactor.table.erase d ∧
    ∃ e, w'.history = ⟨.epollRemove d, .error e⟩ :: w.history

/-- Table and interest list stay, or they change together for one descriptor, or a removal fails. -/
inductive Change (w : World κ) (x : Input κ) (w' : World κ) : Prop
  | kept (table : w'.reactor.table = w.reactor.table) (list : SameEntries w.history w'.history)
  | entered (d : Descriptor) (registration : Registration)
      (own : registration.token.descriptor = d)
      (table : w'.reactor.table = w.reactor.table.insert d registration)
      (entry : watch? d w'.history =
        some ⟨registration.interest.toEpoll, registration.token, true⟩)
      (others : ∀ e, e ≠ d → watch? e w'.history = watch? e w.history)
  | gone (d : Descriptor) (table : w'.reactor.table = w.reactor.table.erase d)
      (entry : watch? d w'.history = none)
      (others : ∀ e, e ≠ d → watch? e w'.history = watch? e w.history)
  | stayed (d : Descriptor) (removal : x = .unregister d) (failed : RemovalFailed w d w')

theorem register_change {socket : SocketId} {mailbox : MailboxId} {interest : Interest} :
    (register d socket mailbox interest).Ends w fun _ w' =>
      Change w (.register d socket mailbox interest) w' := by
  refine register_ends.mono fun result w' h => ?_
  cases result with
  | ok token =>
    obtain ⟨rfl, hm⟩ := h
    refine .entered d ⟨Token.pack d w.reactor.nextGeneration, socket, interest, mailbox⟩
      (Token.descriptor_pack d _) (by rw [hm.reactor]; rfl) ?_ fun e he => ?_
    · rw [hm.history]
      exact if_pos rfl
    · rw [hm.history]
      exact if_neg (Ne.symm he)
  | error e =>
    obtain ⟨bits, token, e, hm⟩ := h
    exact .kept (by rw [hm.reactor]; rfl) (by rw [hm.history]; exact .rfl)

theorem setInterest_change {interest : Interest} (hl : Lists w.reactor.table w.history) :
    (setInterest d interest).Ends w fun _ w' => Change w (.setInterest d interest) w' := by
  refine setInterest_ends.mono fun result w' h => ?_
  cases result with
  | ok =>
    obtain ⟨registration, hr, hm⟩ := h
    obtain ⟨armed, hd⟩ := hl.row d registration hr
    refine .entered d { registration with interest } (hl.own d _ hd) (by rw [hm.reactor]; rfl) ?_
      fun e he => ?_
    · rw [hm.history, List.singleton_append, watch?, if_pos rfl, hd]
      rfl
    · rw [hm.history]
      exact if_neg (Ne.symm he)
  | error e =>
    rcases h.2 with ⟨-, rfl⟩ | ⟨bits, token, e, hm⟩
    · exact .kept rfl .rfl
    · exact .kept (by rw [hm.reactor]) (by rw [hm.history]; exact .rfl)

theorem unregister_change : (unregister d).Ends w fun _ w' => Change w (.unregister d) w' := by
  refine unregister_ends.mono fun _ w' h => ?_
  rcases h with ⟨-, rfl⟩ | ⟨answer, hm⟩
  · exact .kept rfl .rfl
  have ht : w'.reactor.table = w.reactor.table.erase d := by
    rw [hm.reactor]
    rfl
  cases answer with
  | ok =>
    refine .gone d ht ?_ fun e he => ?_
    · rw [hm.history]
      exact if_pos rfl
    · rw [hm.history]
      exact if_neg (Ne.symm he)
  | error e =>
    cases hr : w.reactor.table.get? d with
    | none =>
      have hsame : w'.reactor.table = w.reactor.table := ht.trans (Table.erase_of_get?_eq_none hr)
      exact .kept hsame (by rw [hm.history]; exact .rfl)
    | some registration => exact .stayed d rfl ⟨⟨registration, hr⟩, ht, e, hm.history⟩

omit [OperatingSystem κ] in
theorem Delivery.same {notes : List (MailboxId × Readiness)} (h : Delivery w notes w')
    (hl : Lists w.reactor.table w.history) : SameEntries w.history w'.history := by
  induction h with
  | done => exact .rfl
  | posted _ _ ih => exact ih hl
  | stale _ _ ih => exact ih hl
  | rearmed answer hr ht hm _ ih =>
    have hs := hl.rearmed hr answer
    rw [ht, ← List.singleton_append, ← hm.history] at hs
    refine hs.trans (ih ?_)
    rw [hm.reactor]
    exact hl.same hs

theorem poll_change (hl : Lists w.reactor.table w.history) :
    pollOnce.Ends w fun _ w' => Change w .poll w' := by
  refine pollOnce_ends.mono fun _ w' h => ?_
  have hwait : ∀ {answer w₁}, w.Moved [⟨.epollWait w.reactor.maxEvents, answer⟩] w.reactor w₁ →
      SameEntries w.history w₁.history := by
    intro answer w₁ hm
    rw [hm.history]
    exact History.sameEntries_wait _ answer _
  rcases h with ⟨e, hm⟩ | ⟨reports, w₁, hm, hd⟩
  · exact .kept (by rw [hm.reactor]) (hwait hm)
  · refine .kept (by rw [hd.reactor, hm.reactor]) ((hwait hm).trans (hd.same ?_))
    rw [hm.reactor]
    exact hl.same (hwait hm)

omit [OperatingSystem κ] in
/-- The rest of the program adds no entry, and it takes none away that has a row. -/
theorem call_change {c : Call} {answer : c.Answer} (hc : leaves w.reactor.table c)
    (hm : w.Moved [⟨c, answer⟩] w.reactor w') (hf : ListsFresh w'.history) :
    Change w (.call c) w' := by
  have ht : w'.reactor.table = w.reactor.table := by rw [hm.reactor]
  have hh : w'.history = ⟨c, answer⟩ :: w.history := hm.history
  cases c with
  | epollAdd d bits token | epollModify d bits token | epollRemove d | epollWait most => cases hc
  | close d =>
    have hnone : w.reactor.table.get? d = none := Option.isNone_iff_eq_none.1 hc
    refine .gone d (ht.trans (Table.erase_of_get?_eq_none hnone).symm) ?_ fun e he => ?_
    · rw [hh]
      exact if_pos rfl
    · rw [hh]
      exact if_neg (Ne.symm he)
  | openSocket kind =>
    cases answer with
    | error e => exact .kept ht (by rw [hh]; exact .rfl)
    | ok d =>
      rw [hh] at hf
      have hnone : watch? d w.history = none := of_decide_eq_true hf.1
      refine .kept ht fun e => ?_
      rw [hh, watch?]
      split
      · rename_i hde
        rw [← hde, hnone]
      · rfl
  | setReuseAddress d | bindAny d port | localPort d | connect d destination | takeError d
  | send d data | sendTo d data destination | recv d size | epollCreate =>
    exact .kept ht (by rw [hh]; exact .rfl)

omit [OperatingSystem κ] in
theorem take_change (mailbox : MailboxId) :
    (takeNote mailbox).Ends w fun _ w' => Change w (.take mailbox) w' := by
  unfold Ends takeNote
  split <;> exact .kept rfl .rfl

/-- One step changes table and interest list together, unless a removal fails. -/
theorem step_change (hl : Lists w.reactor.table w.history) (hf : ListsFresh (step w x).history) :
    Change w x (step w x) := by
  cases x with
  | register d socket mailbox interest => exact register_change
  | setInterest d interest => exact setInterest_change hl
  | unregister d => exact unregister_change
  | poll => exact poll_change hl
  | take mailbox => exact take_change mailbox
  | call c =>
    rw [step] at hf ⊢
    split
    · rename_i hc
      rw [if_pos hc] at hf
      exact call_change hc ⟨rfl, rfl, rfl, rfl⟩ hf
    · exact .kept rfl .rfl
  | elapse system now => exact .kept rfl .rfl

/-- The history goes on from what it was. -/
def Continues (w w' : World κ) : Prop := ∃ calls, w'.history = calls ++ w.history

/-- The history goes on, but no registration was asked for. -/
structure Quiet (w w' : World κ) : Prop where
  calls : ∃ calls, w'.history = calls ++ w.history ∧ Unregistered calls
  next : w'.reactor.nextGeneration = w.reactor.nextGeneration

omit [OperatingSystem κ] in
theorem Quiet.continues (h : Quiet w w') : Continues w w' := by
  obtain ⟨calls, hh, -⟩ := h.calls
  exact ⟨calls, hh⟩

omit [OperatingSystem κ] in
theorem quiet_of_same (hh : w'.history = w.history) (hr : w'.reactor = w.reactor) : Quiet w w' :=
  ⟨⟨[], hh, nofun⟩, by rw [hr]⟩

omit [OperatingSystem κ] in
theorem quiet_of_moved {calls : List Exchange} {r : Reactor} (h : w.Moved calls r w')
    (hc : Unregistered calls) (hr : r.nextGeneration = w.reactor.nextGeneration) : Quiet w w' :=
  ⟨⟨calls, h.history, hc⟩, by rw [h.reactor, hr]⟩

theorem setInterest_quiet {interest : Interest} :
    (setInterest d interest).Ends w fun _ w' => Quiet w w' := by
  refine setInterest_ends.mono fun result w' h => ?_
  cases result with
  | ok =>
    obtain ⟨_, _, hm⟩ := h
    exact quiet_of_moved hm (List.forall_mem_singleton.2 rfl) rfl
  | error =>
    rcases h.2 with ⟨-, rfl⟩ | ⟨_, _, _, hm⟩
    · exact quiet_of_same rfl rfl
    · exact quiet_of_moved hm (List.forall_mem_singleton.2 rfl) rfl

theorem unregister_quiet : (unregister d).Ends w fun _ w' => Quiet w w' := by
  refine unregister_ends.mono fun _ w' h => ?_
  rcases h with ⟨-, rfl⟩ | ⟨_, hm⟩
  · exact quiet_of_same rfl rfl
  · exact quiet_of_moved hm (List.forall_mem_singleton.2 rfl) rfl

theorem poll_quiet : pollOnce.Ends w fun _ w' => Quiet w w' := by
  refine pollOnce_ends.mono fun _ w' h => ?_
  rcases h with ⟨_, hm⟩ | ⟨_, _, hm, hd⟩
  · exact quiet_of_moved hm (List.forall_mem_singleton.2 rfl) rfl
  · obtain ⟨calls, hcalls, hpolling⟩ := hd.round hm
    exact ⟨⟨calls, hcalls, Relay.polling_unregistered hpolling⟩, by rw [hd.reactor, hm.reactor]⟩

omit [OperatingSystem κ] in
theorem take_quiet (mailbox : MailboxId) : (takeNote mailbox).Ends w fun _ w' => Quiet w w' := by
  unfold Ends takeNote
  split <;> exact quiet_of_same rfl rfl

theorem registers_of_leaves {t : Table Descriptor Registration} {c : Call} (hc : leaves t c)
    (answer : c.Answer) : Exchange.registers ⟨c, answer⟩ = false := by
  cases c with
  | epollAdd => cases hc
  | _ => rfl

theorem step_quiet (w : World κ) (hx : x.registered? = none) : Quiet w (step w x) := by
  cases x with
  | register d socket mailbox interest => cases hx
  | setInterest d interest => exact setInterest_quiet
  | unregister d => exact unregister_quiet
  | poll => exact poll_quiet
  | take mailbox => exact take_quiet mailbox
  | call c =>
    rw [step]
    split
    · rename_i hc
      have hmoved : (perform c).Ends w fun answer w' =>
          w.Moved [⟨c, answer⟩] w.reactor w' := Ends.perform fun _ _ h => h
      exact quiet_of_moved hmoved (List.forall_mem_singleton.2 (registers_of_leaves hc _)) rfl
    · exact quiet_of_same rfl rfl
  | elapse system now => exact quiet_of_same rfl rfl

theorem register_continues {socket : SocketId} {mailbox : MailboxId} {interest : Interest} :
    (register d socket mailbox interest).Ends w fun _ w' => Continues w w' := by
  refine register_ends.mono fun result w' h => ?_
  cases result with
  | ok => exact ⟨_, h.2.history⟩
  | error =>
    obtain ⟨_, _, _, hm⟩ := h
    exact ⟨_, hm.history⟩

theorem step_continues (w : World κ) (x : Input κ) : Continues w (step w x) := by
  cases x with
  | register d socket mailbox interest => exact register_continues
  | _ => exact (step_quiet w rfl).continues

omit [OperatingSystem κ] in
theorem Change.lists (h : Change w x w') (hl : Lists w.reactor.table w.history) :
    Lists w'.reactor.table w'.history := by
  cases h with
  | kept table list =>
    rw [table]
    exact hl.same list
  | entered d registration own table entry others =>
    refine ⟨fun e registration' he => ?_, fun e s he => ?_⟩
    · rw [table, Table.get?_insert] at he
      split at he
      · rename_i hed
        cases he
        exact ⟨true, hed ▸ entry⟩
      · rename_i hed
        rw [others e hed]
        exact hl.row e registration' he
    · by_cases hed : e = d
      · rw [hed, entry] at he
        cases he
        exact own.trans hed.symm
      · exact hl.own e s (others e hed ▸ he)
  | gone d table entry others =>
    refine ⟨fun e registration he => ?_, fun e s he => ?_⟩
    · rw [table, Table.get?_erase] at he
      split at he
      · cases he
      · rename_i hed
        rw [others e hed]
        exact hl.row e registration he
    · by_cases hed : e = d
      · rw [hed, entry] at he
        cases he
      · exact hl.own e s (others e hed ▸ he)
  | stayed d removal failed =>
    obtain ⟨-, table, e, hh⟩ := failed
    rw [hh, table]
    refine ⟨fun e registration he => ?_, hl.own⟩
    rw [Table.get?_erase] at he
    split at he
    · cases he
    · exact hl.row e registration he

/-- The descriptor is in the interest list, but not in the table. -/
def Stray (w : World κ) (d : Descriptor) (s : Watch) : Prop :=
  w.reactor.table.get? d = none ∧ watch? d w.history = some s

omit [OperatingSystem κ] in
/-- A stray entry was one before, or its removal has just failed. -/
theorem Change.stray (h : Change w x w') (hs : Stray w' d s) :
    (∃ armed, Stray w d { s with armed }) ∨
      x = .unregister d ∧ RemovalFailed w d w' ∧ watch? d w.history = some s := by
  obtain ⟨hnone, hd⟩ := hs
  have hbefore : w.reactor.table.get? d = none → watch? d w.history = some s →
      ∃ armed, Stray w d { s with armed } := fun hn he => ⟨s.armed, hn, he⟩
  cases h with
  | kept table list =>
    obtain ⟨armed, he⟩ := list.symm.entry hd
    exact .inl ⟨armed, table ▸ hnone, he⟩
  | entered e registration own table entry others =>
    rw [table, Table.get?_insert] at hnone
    split at hnone
    · cases hnone
    · rename_i hde
      exact .inl (hbefore hnone (others d hde ▸ hd))
  | gone e table entry others =>
    have hde : d ≠ e := fun hde => by
      rw [hde, entry] at hd
      cases hd
    rw [table, Table.get?_erase, if_neg hde] at hnone
    exact .inl (hbefore hnone (others d hde ▸ hd))
  | stayed e removal failed =>
    obtain ⟨hr, table, errno, hh⟩ := failed
    have hd' : watch? d w.history = some s := by
      rw [hh] at hd
      exact hd
    by_cases hde : d = e
    · subst hde
      exact .inr ⟨removal, ⟨hr, table, errno, hh⟩, hd'⟩
    · rw [table, Table.get?_erase, if_neg hde] at hnone
      exact .inl (hbefore hnone hd')

theorem listsFresh_before {xs : List (Input κ)} (hf : ListsFresh (run w (xs ++ [x])).history) :
    ListsFresh (run w xs).history := by
  obtain ⟨calls, hcalls⟩ := step_continues (run w xs) x
  rw [run_append] at hf
  change ListsFresh (step (run w xs) x).history at hf
  rw [hcalls] at hf
  exact hf.of_append

theorem lists_run {xs : List (Input κ)} (hl : Lists w.reactor.table w.history)
    (hf : ListsFresh (run w xs).history) :
    Lists (run w xs).reactor.table (run w xs).history := by
  -- From the end: what the system is assumed to do in a run it also does in every run before it.
  induction xs using List.reverseRecOn with
  | nil => exact hl
  | append_singleton xs x ih =>
    have hbefore := ih (listsFresh_before hf)
    rw [run_append] at hf ⊢
    exact (step_change hbefore hf).lists hbefore

/-- At some point the removal of the registration failed, and it has been a stray ever since. -/
def Abandoned (w : World κ) (xs : List (Input κ)) (d : Descriptor) (s : Watch) : Prop :=
  ∃ earlier later, xs = earlier ++ .unregister d :: later ∧
    RemovalFailed (run w earlier) d (run w (earlier ++ [.unregister d])) ∧
    (∃ armed, watch? d (run w earlier).history = some { s with armed }) ∧
    ∀ between, between <+: later →
      ∃ armed, Stray (run w (earlier ++ .unregister d :: between)) d { s with armed }

theorem Abandoned.step {xs : List (Input κ)} {armed : Bool}
    (ha : Abandoned w xs d { s with armed }) (hs : Stray (run w (xs ++ [x])) d s) :
    Abandoned w (xs ++ [x]) d s := by
  obtain ⟨earlier, later, rfl, hfailed, hentry, hsince⟩ := ha
  refine ⟨earlier, later ++ [x], by simp, hfailed, hentry, fun between hbetween => ?_⟩
  rcases List.prefix_concat_iff.1 hbetween with rfl | hbetween
  · refine ⟨s.armed, ?_⟩
    simpa using hs
  · exact hsince between hbetween

theorem abandoned_of_stray {xs : List (Input κ)} (hl : Lists w.reactor.table w.history)
    (hnone : ∀ d s, ¬ Stray w d s) (hf : ListsFresh (run w xs).history)
    (hs : Stray (run w xs) d s) : Abandoned w xs d s := by
  induction xs using List.reverseRecOn generalizing s with
  | nil => exact (hnone d s hs).elim
  | append_singleton xs x ih =>
    have hbefore := listsFresh_before hf
    have hchange := step_change (x := x) (lists_run hl hbefore) (by rwa [run_append] at hf)
    have hstray := hs
    rw [run_append] at hstray
    rcases hchange.stray hstray with ⟨armed, hwas⟩ | ⟨rfl, hfailed, hentry⟩
    · exact (ih hbefore hwas).step hs
    · refine ⟨xs, [], rfl, by rwa [run_append], ⟨s.armed, hentry⟩, fun between hbetween => ?_⟩
      rw [List.prefix_nil.1 hbetween]
      exact ⟨s.armed, hs⟩

/-- A poll posts no note for a descriptor without a row. -/
theorem poll_silent (hnone : w.reactor.table.get? d = none) (m : MailboxId) :
    ∃ notes, ((step w .poll).mailbox m).queue = (w.mailbox m).queue ++ notes ∧
      ∀ note ∈ notes, note.token.descriptor ≠ d := by
  have hbox := pollOnce_mailbox w m
  refine ⟨_, (congrArg Mailbox.queue hbox).trans (Mailbox.queue_accept _ _), ?_⟩
  intro note hnote hd
  obtain ⟨report, -, hn⟩ := List.mem_filterMap.1 (mem_notesFor.1 (List.mem_of_mem_take hnote))
  obtain ⟨-, -, interest, hr⟩ := note?_eq_some hn
  rw [hd, hnone] at hr
  cases hr

/-- Table and interest list are exactly what they were. -/
structure Untouched (w w' : World κ) : Prop where
  table : w'.reactor.table = w.reactor.table
  list : ∀ d, watch? d w'.history = watch? d w.history

theorem register_refused {socket : SocketId} {mailbox : MailboxId} {interest : Interest} :
    (register d socket mailbox interest).Ends w fun result w' =>
      ∀ e, result = .error e → Untouched w w' := by
  refine register_ends.mono fun result w' h e he => ?_
  rw [he] at h
  obtain ⟨bits, token, errno, hm⟩ := h
  exact ⟨by rw [hm.reactor]; rfl, fun d => by rw [hm.history]; rfl⟩

theorem setInterest_refused {interest : Interest} :
    (setInterest d interest).Ends w fun result w' => ∀ e, result = .error e → Untouched w w' := by
  refine setInterest_ends.mono fun result w' h e he => ?_
  rw [he] at h
  rcases h.2 with ⟨-, rfl⟩ | ⟨bits, token, errno, hm⟩
  · exact ⟨rfl, fun d => rfl⟩
  · exact ⟨by rw [hm.reactor], fun d => by rw [hm.history]; rfl⟩

theorem register_listed {socket : SocketId} {mailbox : MailboxId} {interest : Interest}
    (hd : watch? d w.history ≠ none) :
    (register d socket mailbox interest).Ends w fun result w' =>
      ListsFresh w'.history → (∃ e, result = .error e) ∧ Untouched w w' := by
  refine (register_ends.and register_refused).mono fun result w' h hf => ?_
  obtain ⟨hends, hrefused⟩ := h
  cases result with
  | error e => exact ⟨⟨e, rfl⟩, hrefused e rfl⟩
  | ok token =>
    rw [hends.2.history] at hf
    exact (hd (of_decide_eq_true hf.1)).elim

/-- What holds of table and interest list after some inputs. -/
structure Agreement (w : World κ) (xs : List (Input κ)) : Prop where
  listed : ∀ d registration, (run w xs).reactor.table.get? d = some registration →
    registration.token.descriptor = d ∧ ∃ armed, watch? d (run w xs).history =
      some ⟨registration.interest.toEpoll, registration.token, armed⟩
  abandoned : ∀ d s, Stray (run w xs) d s → Abandoned w xs d s
  silent : ∀ d s, Stray (run w xs) d s → ∀ m, ∃ notes,
    ((step (run w xs) .poll).mailbox m).queue = ((run w xs).mailbox m).queue ++ notes ∧
      ∀ note ∈ notes, note.token ≠ s.token
  registerRefused : ∀ d socket mailbox interest,
    (register d socket mailbox interest).Ends (run w xs) fun result w' =>
      ∀ e, result = .error e → Untouched (run w xs) w'
  setRefused : ∀ d interest, (setInterest d interest).Ends (run w xs) fun result w' =>
    ∀ e, result = .error e → Untouched (run w xs) w'
  second : ∀ d socket mailbox interest, watch? d (run w xs).history ≠ none →
    (register d socket mailbox interest).Ends (run w xs) fun result w' =>
      ListsFresh w'.history → (∃ e, result = .error e) ∧ Untouched (run w xs) w'

/-- After any inputs, whatever failed in between, the table claims no more than the interest list
holds. -/
theorem table_agrees {system : κ} {maxEvents : Nat} {mailboxes : Table MailboxId Mailbox}
    {xs : List (Input κ)}
    (hf : ListsFresh (run (begin system maxEvents mailboxes) xs).history) :
    Agreement (begin system maxEvents mailboxes) xs := by
  have hstart : Lists (begin system maxEvents mailboxes).reactor.table
      (begin system maxEvents mailboxes).history := ⟨nofun, nofun⟩
  have hl := lists_run hstart hf
  refine ⟨fun d registration hr => ?_, fun d s hs => ?_, fun d s hs m => ?_,
    fun d socket mailbox interest => register_refused, fun d interest => setInterest_refused,
    fun d socket mailbox interest => register_listed⟩
  · obtain ⟨armed, hd⟩ := hl.row d registration hr
    exact ⟨hl.own d _ hd, armed, hd⟩
  · exact abandoned_of_stray hstart nofun hf hs
  · obtain ⟨notes, hqueue, hnotes⟩ := poll_silent hs.1 m
    refine ⟨notes, hqueue, fun note hnote ht => hnotes note hnote ?_⟩
    rw [ht]
    exact hl.own d s hs.2

end Reactor

namespace Loopback
open Reactor (Input)

/-- The first removal of a registration fails. -/
def refusingRemoval : Network := { up := true, faults := [⟨.epollRemove, Errno.invalid, 0, 1⟩] }

/-- A registration whose removal fails, and an attempt to register its descriptor once more. -/
def failedRemoval : List (Input Network) :=
  [.call (.openSocket .udp), .register 3 7 0 { write := true }, .poll,
    .setInterest 3 { read := true }, .unregister 3, .register 3 8 0 { write := true }]

theorem table_agrees_failedRemoval :
    History.ListsFresh (Reactor.run (Reactor.begin refusingRemoval 8 ∅) failedRemoval).history ∧
      Reactor.Agreement (Reactor.begin refusingRemoval 8 ∅) failedRemoval ∧
      Reactor.Stray (Reactor.run (Reactor.begin refusingRemoval 8 ∅) failedRemoval) 3
        ⟨Interest.toEpoll { read := true }, Token.pack 3 1, true⟩ :=
  ⟨by decide +kernel, Reactor.table_agrees (by decide +kernel),
    by unfold Reactor.Stray; decide +kernel⟩

end Loopback

end SocketRelay
