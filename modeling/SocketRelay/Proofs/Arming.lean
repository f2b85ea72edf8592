import SocketRelay.Proofs.Numbering

/-!
# Armed entries

An entry of the interest list is armed when it is added and each time it is modified, and a one-shot
entry is disarmed by the wait that reports it. What may be assumed of waits is `ReportsArmed`: they
report entries that are armed, and each of them once.
-/
namespace SocketRelay

theorem Interest.oneShot_toEpoll (a : Interest) :
    EpollBits.meets a.toEpoll EpollBits.oneShot := by
  obtain ⟨read, write, hangup, error⟩ := a
  revert read write hangup error
  decide

/-- The descriptor whose entry was armed again. -/
def Exchange.rearmed? : Exchange → Option Descriptor
  | ⟨.epollModify d _ _, .ok _⟩ => some d
  | _ => none

theorem Exchange.rearmed?_eq_some {x : Exchange} {d : Descriptor} (h : x.rearmed? = some d) :
    ∃ bits token, x = ⟨.epollModify d bits token, .ok ()⟩ := by
  unfold rearmed? at h
  split at h
  · cases h
    exact ⟨_, _, rfl⟩
  · cases h

namespace History
variable {d : Descriptor} {token : Token} {e : Watch} {calls h : History}

/-- The descriptor is watched, and its entry is armed. -/
def armed (d : Descriptor) (h : History) : Bool := (watch? d h).any (·.armed)

/-- A wait reports entries of the interest list that are armed, each once. -/
abbrev ReportsArmed : History → Prop := Throughout fun x h =>
  match x with
  | ⟨.epollWait _, .ok reports⟩ => (reports.map Prod.snd).Nodup ∧ ∀ report ∈ reports,
      (watch? report.2.descriptor h).any fun e => e.token = report.2 ∧ e.armed
  | _ => true

/-- The system takes no more bytes of a send than there are. -/
abbrev SendsWithin : History → Prop := Throughout fun x _ =>
  match x with
  | ⟨.send _ data, .ok n⟩ => n ≤ data.length
  | _ => true

/-- After one call an entry is new, armed again, or one from before that was no less armed. -/
theorem watch?_cons {x : Exchange} (hw : watch? d (x :: h) = some e) :
    x.rearmed? = some d ∨ x.granted? = some e.token ∨
      ∃ before, watch? d h = some before ∧ before.token = e.token ∧ (e.armed → before.armed) := by
  have hkept : watch? d h = some e → x.rearmed? = some d ∨ x.granted? = some e.token ∨
      ∃ before, watch? d h = some before ∧ before.token = e.token ∧ (e.armed → before.armed) :=
    fun he => .inr (.inr ⟨e, he, rfl, fun ha => ha⟩)
  obtain ⟨call, answer⟩ := x
  unfold watch? at hw
  split at hw <;> rename_i heq <;> cases heq
  · split at hw
    · cases hw
    · exact hkept hw
  · split at hw
    · cases hw
    · exact hkept hw
  · split at hw
    · cases hw
      exact .inr (.inl rfl)
    · exact hkept hw
  · split at hw
    · rename_i hd
      exact .inl (congrArg some hd)
    · exact hkept hw
  · split at hw
    · cases hw
    · exact hkept hw
  · obtain ⟨before, he, hafter⟩ := Option.map_eq_some_iff.1 hw
    refine .inr (.inr ⟨before, he, ?_⟩)
    unfold Watch.afterReports at hafter
    split at hafter
    · subst hafter
      exact ⟨rfl, nofun⟩
    · subst hafter
      exact ⟨rfl, fun ha => ha⟩
  · exact hkept hw

/-- An entry that is armed was armed before, or has been armed again or added in these calls. -/
theorem armed_append (hw : watch? d (calls ++ h) = some e) (ha : e.armed) :
    armed d h ∨ (∃ x ∈ calls, x.rearmed? = some d) ∨ ∃ x ∈ calls, x.granted? = some e.token := by
  induction calls generalizing e with
  | nil =>
    refine .inl ?_
    rw [List.nil_append] at hw
    simp [armed, hw, ha]
  | cons x calls ih =>
    rcases watch?_cons hw with hd | ht | ⟨before, he, ht, hbefore⟩
    · exact .inr (.inl ⟨x, List.mem_cons_self, hd⟩)
    · exact .inr (.inr ⟨x, List.mem_cons_self, ht⟩)
    · rcases ih he (hbefore ha) with hb | ⟨y, hy, hd⟩ | ⟨y, hy, hd⟩
      · exact .inl hb
      · exact .inr (.inl ⟨y, List.mem_cons_of_mem x hy, hd⟩)
      · exact .inr (.inr ⟨y, List.mem_cons_of_mem x hy, ht ▸ hd⟩)

theorem armed_wait {interest : Interest} {before : Bool} {most : Nat}
    {reports : List (UInt32 × Token)} (hw : watch? d h = some ⟨interest.toEpoll, token, before⟩) :
    armed d (⟨.epollWait most, .ok reports⟩ :: h) =
      (before && decide (token ∉ reports.map Prod.snd)) := by
  have hone := interest.oneShot_toEpoll
  have hafter : armed d (⟨.epollWait most, .ok reports⟩ :: h) =
      (Watch.afterReports ⟨interest.toEpoll, token, before⟩ reports).armed := by
    rw [armed, watch?, hw]
    rfl
  rw [hafter, Watch.afterReports]
  by_cases hreported : token ∈ reports.map Prod.snd
  · rw [if_pos ⟨hone, hreported⟩, decide_eq_false (not_not_intro hreported), Bool.and_false]
  · rw [if_neg fun h => hreported h.2, decide_eq_true hreported, Bool.and_true]

/-- A token that was granted in these calls has a number of its own. -/
theorem issued_of_granted {x : Exchange} (hx : x ∈ calls) (ht : x.granted? = some token)
    (h : History) : registrations h < issued token (calls ++ h) := by
  induction calls with
  | nil => cases hx
  | cons y calls ih =>
    rw [List.cons_append, issued]
    split
    · rename_i hy
      rw [registrations_cons_of_granted? hy, registrations_append]
      omega
    · rename_i hy
      rcases List.mem_cons.1 hx with rfl | hx
      · exact (hy ht).elim
      · exact ih hx

end History

end SocketRelay
