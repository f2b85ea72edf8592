import SocketRelay.Proofs.Socket.Deed

/-!
# Sound sockets

The fields of a virtual socket hang together: without a descriptor nothing else is there, with one
there is a token, and a stream with a descriptor either waits for its connect or is connected. Every
deed keeps this.

`Deed.effect` puts the deeds into four classes by what becomes of the descriptor: nothing, its
registration is renewed, a fresh one is taken over, or the socket's own one is given up. It needs
that the system hands out fresh descriptors and that only open descriptors are watched.
-/
namespace SocketRelay
open History (OpensFresh openDescriptors watch?)

namespace VirtualSocket
variable {ctx : SocketContext} {settled steady : Prop} {v v' : VirtualSocket} {r r' : Reactor}
variable {calls : List Exchange} {t : Traffic}

/-- The fields fit together. -/
structure Sound (v : VirtualSocket) : Prop where
  bare : v.descriptor = none →
    v.token = none ∧ v.connectStarted = none ∧ v.connected = false ∧ v.outbound = []
  held : v.descriptor ≠ none → v.token ≠ none ∧ v.closed = false
  stream : v.kind = .tcp → v.descriptor ≠ none → (v.connected ↔ v.connectStarted = none)
  datagram : v.kind = .udp → v.connectStarted = none ∧ v.connected = false ∧ v.outbound = []

theorem Sound.token_of_descriptor (h : v.Sound) {d : Descriptor} (hd : v.descriptor = some d) :
    ∃ token, v.token = some token :=
  Option.ne_none_iff_exists'.1 (h.held fun hn => by simp [hd] at hn).1

theorem Sound.released (h : v.Sound) (hc : v.closed) : v.descriptor = none := by
  refine Decidable.byContradiction fun hd => ?_
  rw [(h.held hd).2] at hc
  cases hc

theorem sound_new (id : SocketId) (kind : SocketKind) : Sound { id, kind } :=
  ⟨fun _ => ⟨rfl, rfl, rfl, rfl⟩, nofun, nofun, fun _ => ⟨rfl, rfl, rfl⟩⟩

theorem sound_shut (v : VirtualSocket) : v.shut.Sound :=
  ⟨fun _ => ⟨rfl, rfl, rfl, rfl⟩, nofun, nofun, fun _ => ⟨rfl, rfl, rfl⟩⟩

theorem Drained.eq_nil {d : Descriptor} {rest : Bytes} (h : Drained d [] calls rest) :
    rest = [] := by
  generalize hd : ([] : Bytes) = data at h
  induction h with
  | untouched => rfl
  | sent n _ _ ih => rw [ih, ← hd, List.drop_nil]
  | unsent e _ _ ih => exact ih

/-- Another queue fits the socket as well, if it is a stream with a descriptor. -/
theorem Sound.withOutbound {outbound : Bytes} (h : v.Sound) (hd : v.descriptor ≠ none)
    (ho : v.kind = .udp → outbound = []) : Sound { v with outbound } where
  bare hn := (hd hn).elim
  held := h.held
  stream := h.stream
  datagram hk := ⟨(h.datagram hk).1, (h.datagram hk).2.1, ho hk⟩

theorem Deed.sound (h : Deed ctx settled steady v r calls t v' r') (hv : v.Sound) : v'.Sound := by
  cases h with
  | bound port hd => exact ⟨hv.bare, hv.held, hv.stream, hv.datagram⟩
  | idle | misfired | wrote | rearmed | received => exact hv
  | opened d setup hd hc hb =>
    obtain ⟨ht, hs, hn, ho⟩ := hv.bare hd
    cases hb with
    | datagram hk =>
      exact ⟨nofun, fun _ => ⟨nofun, hc⟩, fun h => by simp_all, fun _ => ⟨hs, hn, ho⟩⟩
    | connected hk =>
      exact ⟨nofun, fun _ => ⟨nofun, hc⟩, fun _ _ => by simp [hs], fun h => by simp_all⟩
    | pending now hk =>
      exact ⟨nofun, fun _ => ⟨nofun, hc⟩, fun _ _ => by simp [hn], fun h => by simp_all⟩
  | queued d rest hd hk =>
    have hd := (live?_eq_some.1 hd).2
    exact hv.withOutbound (by simp [hd]) (by simp [hk])
  | queuedFirst d rest hd hk =>
    have hd := (live?_eq_some.1 hd).2
    exact hv.withOutbound (by simp [hd]) (by simp [hk])
  | flushed d hd hs hr =>
    have hd := (live?_eq_some.1 hd).2
    refine hv.withOutbound (by simp [hd]) fun hk => ?_
    rw [(hv.datagram hk).2.2] at hr
    exact hr.eq_nil
  | settled d answer hd hc =>
    have hd := (live?_eq_some.1 hd).2
    refine ⟨by simp [hd], hv.held, fun _ _ => by simp, fun hk => ?_⟩
    simp [isConnecting, (hv.datagram hk).1] at hc
  | ended => exact sound_shut v

theorem Preparing.inert {d : Descriptor} {x : Exchange} (h : Preparing ctx v d x) : x.Inert := by
  cases h <;> exact fun _ => ⟨rfl, fun _ => rfl⟩

theorem Idle.inert {d : Descriptor} {x : Exchange} (h : Idle ctx v d x) : x.Inert := by
  cases h <;> exact fun _ => ⟨rfl, fun _ => rfl⟩

theorem Drained.inert {d : Descriptor} {data rest : Bytes} (h : Drained d data calls rest) :
    ∀ x ∈ calls, x.Inert := by
  induction h with
  | untouched => exact nofun
  | sent n _ _ ih => exact List.forall_mem_cons.2 ⟨fun _ => ⟨rfl, fun _ => rfl⟩, ih⟩
  | unsent e _ _ ih => exact List.forall_mem_cons.2 ⟨fun _ => ⟨rfl, fun _ => rfl⟩, ih⟩

theorem Ending.inert (h : Ending ctx settled v calls t) :
    ∀ x ∈ calls, x.Inert := by
  cases h with
  | unflushed d calls rest hd hs hr => exact hr.inert
  | refused d | finished d => exact List.forall_mem_singleton.2 fun _ => ⟨rfl, fun _ => rfl⟩
  | _ => exact nofun

/-- What becomes of a socket's descriptor: before and after stand the socket, the reactor and the
history. -/
inductive Effect (mailbox : MailboxId) (steady : Prop) (v : VirtualSocket) (r : Reactor)
    (h : History) (v' : VirtualSocket) (r' : Reactor) (h' : History) : Prop
  | kept : v'.descriptor = v.descriptor → v'.token = v.token → r'.table = r.table →
      openDescriptors h' = openDescriptors h → (∀ d, watch? d h' = watch? d h) →
      (steady → v'.descriptor ≠ none → v'.interest = v.interest) →
      Effect mailbox steady v r h v' r' h'
  | renewed (d registration) : v.descriptor = some d → v'.descriptor = some d →
      v'.token = v.token → r.table.get? d = some registration →
      r'.table = r.table.insert d { registration with interest := v'.interest } →
      openDescriptors h' = openDescriptors h →
      watch? d h' = (watch? d h).map (fun _ => ⟨v'.interest.toEpoll, registration.token, true⟩) →
      (∀ e, e ≠ d → watch? e h' = watch? e h) → Effect mailbox steady v r h v' r' h'
  | opened (d token) : v.descriptor = none → v'.descriptor = some d → v'.token = some token →
      token.descriptor = d → d ∉ openDescriptors h →
      r'.table = r.table.insert d ⟨token, v.id, v'.interest, mailbox⟩ →
      openDescriptors h' = d :: openDescriptors h →
      watch? d h' = some ⟨v'.interest.toEpoll, token, true⟩ →
      (∀ e, e ≠ d → watch? e h' = watch? e h) → Effect mailbox steady v r h v' r' h'
  | closed (d) : v.descriptor = some d → v'.descriptor = none → v'.token = none →
      r'.table = r.table.erase d → openDescriptors h' = (openDescriptors h).filter (· ≠ d) →
      watch? d h' = none → (∀ e, e ≠ d → watch? e h' = watch? e h) →
      Effect mailbox steady v r h v' r' h'

theorem Effect.of_inert {h : History} {v' : VirtualSocket} {mailbox : MailboxId}
    (hd : v'.descriptor = v.descriptor) (ht : v'.token = v.token)
    (hr : r'.table = r.table) (hc : ∀ x ∈ calls, x.Inert)
    (hi : steady → v'.descriptor ≠ none → v'.interest = v.interest) :
    Effect mailbox steady v r h v' r' (calls ++ h) :=
  .kept hd ht hr (History.openDescriptors_append hc h) (History.watch?_append hc h) hi

/-- Every other descriptor that is open is left as it was. -/
theorem Effect.elsewhere {h h' : History} {mailbox : MailboxId} {e : Descriptor}
    (he : Effect mailbox steady v r h v' r' h') (hv : v.descriptor ≠ some e)
    (ho : e ∈ openDescriptors h) :
    r'.table.get? e = r.table.get? e ∧ watch? e h' = watch? e h := by
  cases he with
  | kept _ _ hr _ hw => exact ⟨by rw [hr], hw e⟩
  | renewed d registration hd _ _ _ hr _ _ hw =>
    have hed : e ≠ d := fun hed => hv (hed ▸ hd)
    exact ⟨by rw [hr, Table.get?_insert, if_neg hed], hw e hed⟩
  | opened d token _ _ _ _ hfresh hr _ _ hw =>
    have hed : e ≠ d := fun hed => hfresh (hed ▸ ho)
    exact ⟨by rw [hr, Table.get?_insert, if_neg hed], hw e hed⟩
  | closed d hd _ _ hr _ _ hw =>
    have hed : e ≠ d := fun hed => hv (hed ▸ hd)
    exact ⟨by rw [hr, Table.get?_erase, if_neg hed], hw e hed⟩

/-- An attempt that leaves no descriptor changes nothing that can be seen afterwards. -/
theorem Misfire.unseen {h : History} (hm : Misfire ctx v r calls r') (hf : OpensFresh (calls ++ h))
    (hw : ∀ d, watch? d h ≠ none → d ∈ openDescriptors h) :
    r'.table = r.table ∧ openDescriptors (calls ++ h) = openDescriptors h ∧
      ∀ d, watch? d (calls ++ h) = watch? d h := by
  cases hm with
  | unopened e => exact ⟨rfl, rfl, fun _ => rfl⟩
  | undone d setup hset =>
    refine ⟨rfl, ?_⟩
    simp only [List.cons_append, List.append_assoc, List.nil_append] at hf ⊢
    have hd := History.fresh_of_opensFresh (_ :: setup) hf
    exact History.opened_and_closed setup (fun x hx => (hset x hx).inert) hd
      (Decidable.not_not.1 fun h => hd (hw d h))
  | unwatched d setup bits token e hset =>
    refine ⟨rfl, ?_⟩
    simp only [List.cons_append, List.append_assoc, List.nil_append] at hf ⊢
    have hd := History.fresh_of_opensFresh (_ :: _ :: setup) hf
    have hall : ∀ x ∈ ⟨.epollAdd d bits token, .error e⟩ :: setup, x.Inert :=
      List.forall_mem_cons.2 ⟨fun _ => ⟨rfl, fun _ => rfl⟩, fun x hx => (hset x hx).inert⟩
    exact History.opened_and_closed (_ :: setup) hall hd
      (Decidable.not_not.1 fun h => hd (hw d h))

theorem Deed.effect (h : Deed ctx settled steady v r calls t v' r') (hv : v.Sound)
    (h₀ : History) (hf : OpensFresh (calls ++ h₀))
    (hw : ∀ d, watch? d h₀ ≠ none → d ∈ openDescriptors h₀) :
    Effect ctx.mailbox steady v r h₀ v' r' (calls ++ h₀) := by
  cases h with
  | bound port hd => exact .of_inert rfl rfl rfl nofun fun _ _ => rfl
  | idle d x hd hx => exact .of_inert rfl rfl rfl (by simpa using hx.inert) fun _ _ => rfl
  | misfired hd hc hm =>
    obtain ⟨ht, ho, hw'⟩ := hm.unseen hf hw
    exact .kept rfl rfl ht ho hw' fun _ _ => rfl
  | opened d setup hd hc hb hset =>
    simp only [List.cons_append, List.append_assoc, List.nil_append] at hf ⊢
    have hfresh := History.fresh_of_opensFresh (_ :: setup) hf
    have hinert : ∀ x ∈ setup, x.Inert := fun x hx => (hset x hx).inert
    refine .opened d _ hd rfl rfl (Token.descriptor_pack _ _) hfresh rfl ?_ ?_ fun e he => ?_
    · exact History.openDescriptors_append hinert (⟨.openSocket v.kind, .ok d⟩ :: h₀)
    · rw [watch?]
      simp only [if_true]
      rfl
    · rw [watch?, if_neg (Ne.symm he), History.watch?_append hinert, watch?, if_neg (Ne.symm he)]
  | wrote d data n =>
    exact .of_inert rfl rfl rfl (List.forall_mem_singleton.2 fun _ => ⟨rfl, fun _ => rfl⟩)
      fun _ _ => rfl
  | queued d rest hd hk ho =>
    refine .of_inert rfl rfl rfl nofun fun hs _ => ?_
    have hne : (v.outbound ++ rest).isEmpty = v.outbound.isEmpty := by
      cases hout : v.outbound with
      | nil => exact (ho hs hout).elim
      | cons => rfl
    simp only [interest, isConnecting, hne]
  | @queuedFirst registration d rest hd hk ho hl hr =>
    have hd := (live?_eq_some.1 hd).2
    refine .renewed d registration hd hd rfl hr rfl rfl ?_ fun e he => ?_
    · simp [watch?]
    · simp [watch?, Ne.symm he]
  | @rearmed registration d hd hr =>
    have hd := (live?_eq_some.1 hd).2
    refine .renewed d registration hd hd rfl hr rfl rfl ?_ fun e he => ?_
    · simp [watch?]
    · simp [watch?, Ne.symm he]
  | flushed d hd hn hr => exact .of_inert rfl rfl rfl hr.inert fun h _ => (hn h).elim
  | settled d answer hd hc hn =>
    exact .of_inert rfl rfl rfl (List.forall_mem_singleton.2 fun _ => ⟨rfl, fun _ => rfl⟩)
      fun h _ => (hn h).elim
  | received d data =>
    exact .of_inert rfl rfl rfl (List.forall_mem_singleton.2 fun _ => ⟨rfl, fun _ => rfl⟩)
      fun _ _ => rfl
  | ended hc he hcl =>
    rename_i lead more
    rw [List.append_assoc] at hf ⊢
    have hopen := History.openDescriptors_append he.inert h₀
    have hwatch := History.watch?_append he.inert h₀
    cases hd : v.descriptor with
    | none =>
      rw [hd] at hcl
      cases hcl
      exact .kept hd.symm (hv.bare hd).1.symm rfl hopen hwatch fun _ h => (h rfl).elim
    | some d =>
      rw [hd] at hcl
      cases hcl with
      | unwatched d hn =>
        refine .closed d hd rfl rfl rfl ?_ ?_ fun e he => ?_
        · rw [← hopen]; rfl
        · simp [watch?]
        · rw [← hwatch]; simp [watch?, Ne.symm he]
      | watched d answer =>
        refine .closed d hd rfl rfl rfl ?_ ?_ fun e he => ?_
        · rw [← hopen]; rfl
        · simp [watch?]
        · rw [← hwatch]
          cases answer <;> simp [watch?, Ne.symm he]

end VirtualSocket

end SocketRelay
