import SocketRelay.Proofs.Socket.Reading

/-!
# Sockets and the standing of what they hold

A virtual socket never asks its real socket what state it is in; it goes by what it remembers. What
it remembers is right: a virtual socket that holds a descriptor is `Seated`, the real socket having
got exactly as far as the virtual one takes it to have. So every call that a deed makes is admitted.
-/
namespace SocketRelay

def Exchange.connects : Exchange → Bool
  | ⟨.connect _ _, _⟩ => true
  | _ => false

/-- Only a connect ends the time before the connect. -/
theorem Standing.idle_of_after {s : Standing} {x : Exchange} (h : (s.after x).link = .idle) :
    s.link = .idle ∧ x.connects = false := by
  unfold after at h
  split at h
  · exact ⟨h, rfl⟩
  · exact ⟨h, rfl⟩
  · rename_i destination answer
    have hne : Link.ofAnswer answer ≠ .idle := by
      unfold Link.ofAnswer
      split <;> exact nofun
    exact (hne h).elim
  · refine ⟨?_, rfl⟩
    cases hl : s.link with
    | idle => rfl
    | pending =>
      simp only [hl, Link.settle] at h
      split at h <;> simp_all
    | connected | refused => simp [hl, Link.settle] at h
  · rename_i hother _
    refine ⟨h, ?_⟩
    unfold Exchange.connects
    split
    · exact (hother _ _ _ rfl).elim
    · rfl

namespace History
variable {d : Descriptor} {h : History}

/-- In an orderly history no real socket is connected twice, and none that is idle has been. -/
theorem Orderly.connects_at_most_once (ho : Orderly h) (d : Descriptor) :
    (∀ n, (dealings d n h).countP Exchange.connects ≤ 1) ∧
      ∀ s, standing? d h = some s → s.link = .idle →
        (dealings d (openings d h) h).countP Exchange.connects = 0 := by
  induction h with
  | nil => exact ⟨fun n => Nat.zero_le 1, nofun⟩
  | cons x h ih =>
    obtain ⟨honce, hidle⟩ := ih ho.2
    have hgrown : ∀ n, (dealings d n (x :: h)).countP Exchange.connects =
        (dealings d n h).countP Exchange.connects +
          if openings d h = n ∧ x.dealing? = some d ∧ x.connects then 1 else 0 := by
      intro n
      rw [dealings]
      split <;> simp_all
    refine ⟨fun n => ?_, fun s hs hlink => ?_⟩
    · rw [hgrown]
      split
      · rename_i hx
        obtain ⟨rfl, hd, hconnects⟩ := hx
        obtain ⟨s, hs, ha⟩ := ho.admitted (Exchange.descriptor?_of_dealing? hd)
        have hlink : s.link = .idle := by
          unfold Exchange.connects at hconnects
          split at hconnects
          · exact (of_decide_eq_true ha).2.2
          · cases hconnects
        exact Nat.le_of_eq (congrArg (· + 1) (hidle s hs hlink))
      · exact honce n
    · rw [hgrown]
      by_cases hopened : x.opened? = some d
      · rw [openings, if_pos hopened, dealings_of_openings_lt (Nat.lt_succ_self _)]
        simp
      · rw [openings, if_neg hopened]
        by_cases hon : x.call.descriptor? = some d
        · by_cases hclose : x.call = .close d
          · obtain ⟨call, answer⟩ := x
            subst hclose
            simp [standing?, Exchange.leaves] at hs
          · rw [standing?, Exchange.leaves_of_on hon hclose, Option.map_eq_some_iff] at hs
            obtain ⟨before, hbefore, rfl⟩ := hs
            obtain ⟨hlink, hno⟩ := Standing.idle_of_after hlink
            simp [hidle before hbefore hlink, hno]
        · rw [standing?, Exchange.leaves_of_apart hon hopened] at hs
          have hdealing : x.dealing? ≠ some d := fun hx => hon (Exchange.descriptor?_of_dealing? hx)
          simp [hidle s hs hlink, hdealing]

end History

namespace VirtualSocket
open History (OpensFresh Orderly openDescriptors standing?)
variable {ctx : SocketContext} {settled steady : Prop} {v v' : VirtualSocket} {r r' : Reactor}
variable {calls : List Exchange} {t : Traffic} {d : Descriptor} {x : Exchange} {h : History}

/-- The real socket has got as far as the virtual one knows. -/
def Seated (h : History) (v : VirtualSocket) : Prop :=
  ∀ d, v.descriptor = some d → standing? d h = some v.standing

theorem seated_bare (hd : v.descriptor = none) (h : History) : Seated h v := by
  intro d hv
  rw [hd] at hv
  cases hv

theorem standing_bound (v : VirtualSocket) : v.standing.port ≠ none := by simp [standing]

theorem standing_link_of_stream (hk : v.kind = .tcp) :
    v.standing.link = if v.connectStarted = none then .connected else .pending := by
  simp [standing, hk]

theorem standing_sendable (hk : v.kind = .tcp) (hs : v.connectStarted = none) (data : Bytes) :
    v.standing.admits (.send d data) := by
  simp [Standing.admits, standing, hk, hs]

theorem standing_settled (hs : v.connectStarted = none) (answer : Except Errno (Option Errno)) :
    { v.standing with link := v.standing.link.settle answer } = v.standing := by
  unfold standing
  cases v.kind with
  | udp => rfl
  | tcp =>
    rw [if_pos hs]
    rfl

theorem leads_takeError (v : VirtualSocket) (answer : Except Errno (Option Errno)) :
    v.standing.Leads d [⟨.takeError d, answer⟩]
      { v.standing with link := v.standing.link.settle answer } :=
  .single ⟨.takeError d, answer⟩ rfl nofun (decide_eq_true v.standing_bound)

theorem leads_recv (v : VirtualSocket) (size : Nat) (answer : Except Errno Bytes) :
    v.standing.Leads d [⟨.recv d size, answer⟩] v.standing :=
  .single ⟨.recv d size, answer⟩ rfl nofun (decide_eq_true v.standing_bound)

theorem Idle.leads (hx : Idle ctx v d x) : v.standing.Leads d [x] v.standing := by
  cases hx with
  | error answer hs =>
    have hleads := v.leads_takeError (d := d) answer
    rwa [standing_settled hs answer] at hleads
  | datagram address port destination data answer hk =>
    exact .single ⟨.sendTo d data destination, answer⟩ rfl nofun
      (decide_eq_true ⟨v.standing_bound, hk⟩)
  | unsent data e hk hs =>
    exact .single ⟨.send d data, .error e⟩ rfl nofun (standing_sendable hk hs data)
  | unread e => exact v.leads_recv ctx.settings.recvBuffer (.error e)
  | unarmed bits token e => exact .single ⟨.epollModify d bits token, .error e⟩ rfl nofun rfl

/-- A queue is written on a stream that waits for nothing; an empty one makes no calls. -/
theorem Drained.leads {data rest : Bytes} (hd : Drained d data calls rest)
    (ha : data ≠ [] → ∀ data', v.standing.admits (.send d data')) :
    v.standing.Leads d calls v.standing := by
  induction hd with
  | untouched => exact .rest
  | @sent calls rest n hd hne ih =>
    refine ih.call ⟨.send d rest, .ok n⟩ rfl nofun (ha ?_ rest)
    rintro rfl
    exact hne hd.eq_nil
  | @unsent calls rest e hd hne ih =>
    refine ih.call ⟨.send d rest, .error e⟩ rfl nofun (ha ?_ rest)
    rintro rfl
    exact hne hd.eq_nil

theorem Sound.stream_of_outbound (hv : v.Sound) (ho : v.outbound ≠ []) : v.kind = .tcp := by
  cases hk : v.kind with
  | tcp => rfl
  | udp => exact (ho (hv.datagram hk).2.2).elim

theorem Sound.flush_leads (hv : v.Sound) {rest : Bytes} (hd : Drained d v.outbound calls rest)
    (hs : v.connectStarted = none) : v.standing.Leads d calls v.standing :=
  hd.leads fun ho data => standing_sendable (hv.stream_of_outbound ho) hs data

theorem Ending.leads (he : Ending ctx settled v calls t) (hv : v.Sound)
    (hd : v.descriptor = some d) :
    ∃ s, v.standing.Leads d calls s := by
  cases he with
  | wished | failed | gone => exact ⟨_, .rest⟩
  | refused e answer he =>
    cases hd.symm.trans he
    exact ⟨_, v.leads_takeError answer⟩
  | unflushed e _ rest he _ hr hs =>
    cases hd.symm.trans he
    exact ⟨_, hv.flush_leads hr hs⟩
  | finished e he =>
    cases hd.symm.trans he
    exact ⟨_, v.leads_recv ctx.settings.recvBuffer (.ok [])⟩

theorem Deed.leads (hdeed : Deed ctx settled steady v r calls t v' r') (hv : v.Sound)
    (hd : v.descriptor = some d) (hc : v'.closed = false) :
    v.standing.Leads d calls v'.standing := by
  have hown : ∀ {e}, v.live? = some e → e = d := by
    intro e he
    exact Option.some.inj ((live?_eq_some.1 he).2.symm.trans hd)
  cases hdeed with
  | bound port hn | misfired hn | opened e setup hn =>
    rw [hd] at hn
    cases hn
  | idle e x he hx =>
    cases hown he
    exact hx.leads
  | wrote e data n he hk hs =>
    cases hown he
    exact .single ⟨.send d data, .ok n⟩ rfl nofun (standing_sendable hk hs data)
  | queued => exact .rest
  | queuedFirst e rest he | rearmed e he =>
    cases hown he
    exact .single ⟨.epollModify d _ _, .ok ()⟩ rfl nofun rfl
  | flushed e he hn hr hs =>
    cases hown he
    exact hv.flush_leads hr hs
  | settled e answer he hconnecting hn ha =>
    cases hown he
    have hk : v.kind = .tcp := by
      cases hk : v.kind with
      | tcp => rfl
      | udp =>
        rw [isConnecting, (hv.datagram hk).1] at hconnecting
        cases hconnecting
    have hpending : v.connectStarted ≠ none := Option.isSome_iff_ne_none.1 hconnecting
    have hlink : Link.settle .pending answer = .connected := by
      cases answer with
      | error e => rfl
      | ok pending =>
        cases pending with
        | none => rfl
        | some e => exact (ha e rfl).elim
    have hleads := v.leads_takeError (d := d) answer
    rw [standing_link_of_stream hk, if_neg hpending, hlink] at hleads
    simpa [standing, hk] using hleads
  | received e data he =>
    cases hown he
    exact v.leads_recv ctx.settings.recvBuffer (.ok data)
  | ended => cases hc

theorem orderly_open (ho : Orderly h) (kind : SocketKind) (d : Descriptor) :
    Orderly (⟨.openSocket kind, .ok d⟩ :: h) ∧
      standing? d (⟨.openSocket kind, .ok d⟩ :: h) = some { kind } :=
  ⟨ho.cons nofun, if_pos rfl⟩

theorem Misfire.orderly (hm : Misfire ctx v r calls r') (ho : Orderly h) :
    Orderly (calls ++ h) := by
  cases hm with
  | unopened e => exact ho.cons nofun
  | undone d setup hs hl =>
    obtain ⟨s, hl⟩ := hl
    obtain ⟨hopen, hstanding⟩ := orderly_open ho v.kind d
    rw [List.append_assoc]
    exact (hopen.append hl hstanding).close (History.standing?_of_leads hl hstanding) ()
  | unwatched d setup bits token e hs hl =>
    obtain ⟨s, hl⟩ := hl
    obtain ⟨hopen, hstanding⟩ := orderly_open ho v.kind d
    rw [List.append_assoc]
    exact (hopen.append hl hstanding).close (History.standing?_of_leads hl hstanding) ()

theorem Closing.orderly {s : Standing} (hc : Closing r (some d) calls r') (ho : Orderly h)
    (hs : standing? d h = some s) : Orderly (calls ++ h) := by
  cases hc with
  | unwatched => exact ho.close hs ()
  | watched d answer =>
    have hremoved : s.Leads d [⟨.epollRemove d, answer⟩] s := .single _ rfl nofun rfl
    exact (ho.append hremoved hs).close (History.standing?_of_leads hremoved hs) ()

/-- Every call of a deed is admitted, and afterwards the socket is seated again. -/
theorem Deed.seated (hdeed : Deed ctx settled steady v r calls t v' r') (hv : v.Sound)
    (hs : Seated h v) (ho : Orderly h) : Orderly (calls ++ h) ∧ Seated (calls ++ h) v' := by
  cases hd : v.descriptor with
  | some d =>
    cases hc : v'.closed with
    | false =>
      have hl := hdeed.leads hv hd hc
      refine ⟨ho.append hl (hs d hd), fun e he => ?_⟩
      cases (hdeed.descriptor_eq hd hc).symm.trans he
      exact History.standing?_of_leads hl (hs d hd)
    | true =>
      have hbare : v'.descriptor = none := (hdeed.sound hv).released hc
      obtain ⟨lead, more, rfl, he, hcl⟩ := hdeed.of_closed hdeed.open hc
      obtain ⟨s, hl⟩ := he.leads hv hd
      rw [hd] at hcl
      rw [List.append_assoc]
      refine ⟨hcl.orderly (ho.append hl (hs d hd)) (History.standing?_of_leads hl (hs d hd)), ?_⟩
      exact seated_bare hbare _
  | none =>
    have hlive : v.live? = none := by simp [live?, hd]
    cases hdeed with
    | bound port hn => exact ⟨ho, fun e he => by cases hn.symm.trans he⟩
    | misfired hn hc hm => exact ⟨hm.orderly ho, seated_bare hd _⟩
    | opened d setup hn hc hb hset hl =>
      obtain ⟨hopen, hstanding⟩ := orderly_open ho v.kind d
      rw [List.append_assoc]
      refine ⟨hopen.append hl hstanding, fun e he => ?_⟩
      cases he
      exact History.standing?_of_leads hl hstanding
    | ended hc he hcl =>
      rw [hd] at hcl
      cases hcl
      rw [he.bare hd]
      exact ⟨ho, seated_bare rfl _⟩
    | idle d x hl | wrote d data n hl | queued d rest hl | queuedFirst d rest hl | rearmed d hl
    | flushed d hl | settled d answer hl | received d data hl =>
      rw [hlive] at hl
      cases hl

/-- A deed leaves every other open socket where it is. -/
theorem Deed.standing_eq (hdeed : Deed ctx settled steady v r calls t v' r')
    (hne : v.descriptor ≠ some d) (ho : d ∈ openDescriptors h) (hf : OpensFresh (calls ++ h)) :
    standing? d (calls ++ h) = standing? d h := by
  have hopened : ∀ x ∈ calls, x.opened? ≠ some d := by
    intro x hx hxd
    have hlt := History.openings_lt_of_opened hx hxd h
    rw [hdeed.openings_eq ho hf] at hlt
    exact Nat.lt_irrefl _ hlt
  refine History.standing?_append_of_apart (fun x hx => ⟨fun hxd => ?_, hopened x hx⟩) h
  rcases hdeed.on with hown | ⟨later, kind, e, rfl, hlater⟩
  · exact hne (hown x hx d hxd)
  · have hed : e ≠ d := by
      rintro rfl
      exact hopened _ (List.mem_append_right _ (List.mem_singleton.2 rfl)) rfl
    rcases List.mem_append.1 hx with hx | hx
    · exact hed (Option.some.inj ((hlater x hx).symm.trans hxd))
    · rw [List.mem_singleton.1 hx] at hxd
      cases hxd

end VirtualSocket

end SocketRelay
