import SocketRelay.Proofs.Reactor.Listing

/-!
# Generations

A token is a descriptor and a generation in one word, and nothing else: every word is the token of
exactly one such pair, also where the descriptor is negative. So two tokens can only be mistaken for
each other if both halves agree.

A reactor draws a generation for every registration that it is asked for, granted or refused, and
the counter wraps. `tokensFrom` lists the tokens that a sequence of registrations uses; a run uses
these and no others. A token comes again only after the counter has gone through all generations.
-/
namespace SocketRelay

namespace Token

theorem pack_descriptor_generation (t : Token) : pack t.descriptor t.generation = t := by
  obtain ⟨word⟩ := t
  have hword : word.toNat < 2 ^ 64 := word.toNat_lt
  have hhigh : word.toNat >>> 32 < 2 ^ 32 := by
    rw [Nat.shiftRight_eq_div_pow]
    omega
  have hshift : (word.toNat >>> 32) <<< 32 < 2 ^ 64 := by
    rw [Nat.shiftLeft_eq]
    omega
  have hlow : word.toNat % 2 ^ 32 < 2 ^ 32 := Nat.mod_lt _ (Nat.two_pow_pos 32)
  refine congrArg mk (UInt64.toNat.inj ?_)
  calc _ = (word.toNat >>> 32 % 2 ^ 32) <<< 32 % 2 ^ 64 ||| word.toNat % 2 ^ 32 := by
        simp [descriptor, generation]
    _ = (word.toNat >>> 32) <<< 32 ||| word.toNat % 2 ^ 32 := by
        rw [Nat.mod_eq_of_lt hhigh, Nat.mod_eq_of_lt hshift]
    _ = (word.toNat >>> 32) <<< 32 + word.toNat % 2 ^ 32 :=
        (Nat.shiftLeft_add_eq_or_of_lt hlow _).symm
    _ = word.toNat := by
        rw [Nat.shiftLeft_eq, Nat.shiftRight_eq_div_pow]
        exact Nat.div_add_mod' _ _

theorem pack_inj {d d' : Descriptor} {g g' : UInt32} :
    pack d g = pack d' g' ↔ d = d' ∧ g = g' := by
  constructor
  · intro h
    have hdescriptor := congrArg descriptor h
    have hgeneration := congrArg generation h
    rw [descriptor_pack, descriptor_pack] at hdescriptor
    rw [generation_pack, generation_pack] at hgeneration
    exact ⟨hdescriptor, hgeneration⟩
  · rintro ⟨rfl, rfl⟩
    rfl

/-- The sign of a descriptor does not reach the generation. -/
example : pack (-1) 7 = ⟨0x7ffffffff⟩ := by decide

/-- Every token is that of one pair and of no other. -/
theorem existsUnique_pack (t : Token) : ∃! p : Descriptor × UInt32, pack p.1 p.2 = t := by
  refine ⟨(t.descriptor, t.generation), t.pack_descriptor_generation, ?_⟩
  rintro p rfl
  rw [descriptor_pack, generation_pack]

end Token

/-- The token with which a registration is asked for. -/
def Exchange.requested? : Exchange → Option Token
  | ⟨.epollAdd _ _ token, _⟩ => some token
  | _ => none

theorem Exchange.requested?_eq_none {x : Exchange} (h : x.registers = false) :
    x.requested? = none := by
  unfold requested?
  split
  · cases h
  · rfl

namespace History

/-- The tokens of all registrations that were asked for, granted or not, in order. -/
def requested (h : History) : List Token := (h.filterMap Exchange.requested?).reverse

theorem requested_append (calls h : History) :
    requested (calls ++ h) = requested h ++ requested calls := by
  unfold requested
  rw [List.filterMap_append, List.reverse_append]

theorem Unregistered.requested_eq {calls : History} (hc : Unregistered calls) :
    requested calls = [] := by
  have hnone : calls.filterMap Exchange.requested? = [] :=
    List.filterMap_eq_nil_iff.2 fun x hx => Exchange.requested?_eq_none (hc x hx)
  rw [requested, hnone, List.reverse_nil]

end History

/-- The tokens for these descriptors, one generation after the other. -/
def tokensFrom (g : UInt32) : List Descriptor → List Token
  | [] => []
  | d :: ds => Token.pack d g :: tokensFrom (g + 1) ds

theorem ofNat_succ_add (g : UInt32) (n : Nat) :
    g + 1 + UInt32.ofNat n = g + UInt32.ofNat (n + 1) := by
  rw [UInt32.add_assoc, Nat.add_comm n 1, UInt32.ofNat_add]
  rfl

theorem tokensFrom_append (g : UInt32) (ds es : List Descriptor) :
    tokensFrom g (ds ++ es) = tokensFrom g ds ++ tokensFrom (g + UInt32.ofNat ds.length) es := by
  induction ds generalizing g with
  | nil =>
    change tokensFrom g es = tokensFrom (g + 0) es
    rw [UInt32.add_zero]
  | cons d ds ih =>
    rw [List.cons_append, tokensFrom, ih, ofNat_succ_add, tokensFrom]
    rfl

theorem getElem?_tokensFrom (g : UInt32) (ds : List Descriptor) (i : Nat) :
    (tokensFrom g ds)[i]? = ds[i]?.map fun d => Token.pack d (g + UInt32.ofNat i) := by
  induction ds generalizing g i with
  | nil => rfl
  | cons d ds ih =>
    cases i with
    | zero =>
      change some (Token.pack d g) = some (Token.pack d (g + 0))
      rw [UInt32.add_zero]
    | succ i =>
      rw [tokensFrom, List.getElem?_cons_succ, List.getElem?_cons_succ, ih, ofNat_succ_add]

@[simp] theorem length_tokensFrom (g : UInt32) (ds : List Descriptor) :
    (tokensFrom g ds).length = ds.length := by
  induction ds generalizing g with
  | nil => rfl
  | cons d ds ih => rw [tokensFrom, List.length_cons, List.length_cons, ih]

@[simp] theorem map_descriptor_tokensFrom (g : UInt32) (ds : List Descriptor) :
    (tokensFrom g ds).map Token.descriptor = ds := by
  induction ds generalizing g with
  | nil => rfl
  | cons d ds ih => rw [tokensFrom, List.map_cons, ih, Token.descriptor_pack]

/-- Two registrations use one token exactly if they are for one descriptor and the counter has come
round in between. -/
theorem tokensFrom_eq_iff {g : UInt32} {ds : List Descriptor} {i j : Nat} (hi : i < ds.length)
    (hj : j < ds.length) :
    (tokensFrom g ds)[i]? = (tokensFrom g ds)[j]? ↔
      ds[i]? = ds[j]? ∧ i % UInt32.size = j % UInt32.size := by
  rw [getElem?_tokensFrom, getElem?_tokensFrom, List.getElem?_eq_getElem hi,
    List.getElem?_eq_getElem hj, Option.map_some, Option.map_some, Option.some_inj,
    Option.some_inj, Token.pack_inj, UInt32.add_right_inj, ofNat_eq_iff]

namespace Reactor
open SocketRelay.Action (Ends)
open SocketRelay.History (requested requested_append)
variable {κ : Type} {w w' w'' : World κ} {d : Descriptor} {ds es : List Descriptor}

/-- From `w` to `w'` registrations were asked for of these descriptors, in this order: each has
drawn the next generation. -/
structure Draws (w : World κ) (ds : List Descriptor) (w' : World κ) : Prop where
  tokens : requested w'.history =
    requested w.history ++ tokensFrom w.reactor.nextGeneration ds
  next : w'.reactor.nextGeneration = w.reactor.nextGeneration + UInt32.ofNat ds.length

theorem Draws.trans (h : Draws w ds w') (h' : Draws w' es w'') : Draws w (ds ++ es) w'' := by
  constructor
  · rw [h'.tokens, h.tokens, h.next, tokensFrom_append, List.append_assoc]
  · rw [h'.next, h.next, List.length_append, UInt32.ofNat_add, UInt32.add_assoc]

theorem Quiet.draws (h : Quiet w w') : Draws w [] w' := by
  obtain ⟨calls, hh, hc⟩ := h.calls
  constructor
  · rw [hh, requested_append, hc.requested_eq]
    rfl
  · rw [h.next]
    exact (UInt32.add_zero _).symm

variable [OperatingSystem κ]

/-- A registration uses the next generation, whatever the system answers. -/
theorem register_draws {socket : SocketId} {mailbox : MailboxId} {interest : Interest} :
    (register d socket mailbox interest).Ends w fun result w' => Draws w [d] w' ∧
      ∀ token, result = .ok token → token = Token.pack d w.reactor.nextGeneration := by
  unfold register
  refine Ends.bind (p := fun generation w₁ => generation = w.reactor.nextGeneration ∧
    w.Moved [] w.reactor.advance w₁) ⟨rfl, rfl, rfl, rfl, rfl⟩ ?_
  intro _ w₁ hafter
  obtain ⟨rfl, h₁⟩ := hafter
  refine Ends.call fun answer w₂ h₂ => ?_
  have hdraws : Draws w [d] w₂ := by
    constructor
    · rw [h₂.history, h₁.history, List.nil_append, requested_append]
      rfl
    · rw [h₂.reactor, h₁.reactor]
      rfl
  cases answer with
  | error e => exact Ends.pure ⟨hdraws, nofun⟩
  | ok =>
    refine Ends.bind (p := fun _ w₃ => Draws w [d] w₃) ⟨hdraws.tokens, hdraws.next⟩ ?_
    intro _ w₃ h₃
    refine Ends.pure ⟨h₃, fun token ht => ?_⟩
    cases ht
    rfl

theorem step_draws (w : World κ) (x : Input κ) : Draws w x.registered?.toList (step w x) := by
  cases x with
  | register d socket mailbox interest => exact register_draws.1
  | _ => exact (step_quiet w rfl).draws

theorem run_draws (w : World κ) (xs : List (Input κ)) :
    Draws w (xs.filterMap Input.registered?) (run w xs) := by
  induction xs generalizing w with
  | nil => exact (quiet_of_same rfl rfl).draws
  | cons x xs ih =>
    have hcons : (x :: xs).filterMap Input.registered? =
        x.registered?.toList ++ xs.filterMap Input.registered? := by
      cases x <;> rfl
    rw [hcons]
    exact (step_draws w x).trans (ih (step w x))

/-- The tokens that the registrations of a run use, in the order in which they are asked for. -/
def tokensOf (w : World κ) (xs : List (Input κ)) : List Token :=
  tokensFrom w.reactor.nextGeneration (xs.filterMap Input.registered?)

/-- What the registrations of a run make of the generations: each uses one token, for its own
descriptor, and a token comes again only when the counter has come round. -/
structure Drawn (w : World κ) (xs : List (Input κ)) : Prop where
  used : requested (run w xs).history = requested w.history ++ tokensOf w xs
  each : (tokensOf w xs).map Token.descriptor = xs.filterMap Input.registered?
  next : (run w xs).reactor.nextGeneration =
    w.reactor.nextGeneration + UInt32.ofNat (tokensOf w xs).length
  again : ∀ i j, i < (tokensOf w xs).length → j < (tokensOf w xs).length →
    ((tokensOf w xs)[i]? = (tokensOf w xs)[j]? ↔
      (xs.filterMap Input.registered?)[i]? = (xs.filterMap Input.registered?)[j]? ∧
        i % UInt32.size = j % UInt32.size)
  apart : ∀ i j, i < j → j < i + UInt32.size → j < (tokensOf w xs).length →
    (tokensOf w xs)[i]? ≠ (tokensOf w xs)[j]?

theorem drawn_run (w : World κ) (xs : List (Input κ)) : Drawn w xs := by
  have hdraws := run_draws w xs
  have hlength : (tokensOf w xs).length = (xs.filterMap Input.registered?).length :=
    length_tokensFrom _ _
  have hagain : ∀ i j, i < (tokensOf w xs).length → j < (tokensOf w xs).length →
      ((tokensOf w xs)[i]? = (tokensOf w xs)[j]? ↔
        (xs.filterMap Input.registered?)[i]? = (xs.filterMap Input.registered?)[j]? ∧
          i % UInt32.size = j % UInt32.size) := by
    intro i j hi hj
    exact tokensFrom_eq_iff (hlength ▸ hi) (hlength ▸ hj)
  refine ⟨hdraws.tokens, map_descriptor_tokensFrom _ _, ?_, hagain, fun i j hij hnear hj h => ?_⟩
  · rw [hdraws.next, hlength]
  · obtain ⟨-, hround⟩ := (hagain i j (Nat.lt_trans hij hj) hj).1 h
    unfold UInt32.size at hnear hround
    omega

/-- Descriptor and generation make up a token and can be read off it. A registration uses the next
generation whether or not it is granted, and no later one uses the same token before the counter has
gone through all generations. -/
theorem tokens_distinct (w : World κ) (xs : List (Input κ)) :
    (∀ d g, (Token.pack d g).descriptor = d ∧ (Token.pack d g).generation = g) ∧
      (∀ d g d' g', Token.pack d g = Token.pack d' g' ↔ d = d' ∧ g = g') ∧
      (∀ word : UInt64, ∃! p : Descriptor × UInt32, Token.pack p.1 p.2 = ⟨word⟩) ∧
      (∀ d socket mailbox interest, (register d socket mailbox interest).Ends w fun result w' =>
        Draws w [d] w' ∧
          ∀ token, result = .ok token → token = Token.pack d w.reactor.nextGeneration) ∧
      Drawn w xs := by
  refine ⟨fun d g => ⟨Token.descriptor_pack d g, Token.generation_pack d g⟩,
    fun d g d' g' => Token.pack_inj, fun word => Token.existsUnique_pack ⟨word⟩,
    fun d socket mailbox interest => register_draws, drawn_run w xs⟩

end Reactor

namespace Loopback
open Reactor (Input)

/-- The last generation is next. -/
def lastGeneration : World Network :=
  { system := {}, reactor := { nextGeneration := 4294967295, maxEvents := 1 } }

/-- Two registrations of a number that is no descriptor. The system refuses both. -/
def refusedRegistrations : List (Input Network) :=
  [.register (-1) 7 0 { read := true }, .register (-1) 7 0 { read := true }]

/-- The counter wraps between the two, and they use different tokens. -/
theorem tokens_distinct_refusedRegistrations :
    History.requested (Reactor.run lastGeneration refusedRegistrations).history =
        [Token.pack (-1) 4294967295, Token.pack (-1) 0] ∧
      (Reactor.tokensOf lastGeneration refusedRegistrations)[0]? ≠
        (Reactor.tokensOf lastGeneration refusedRegistrations)[1]? := by
  obtain ⟨-, -, -, -, hdrawn⟩ := Reactor.tokens_distinct lastGeneration refusedRegistrations
  exact ⟨by decide +kernel, hdrawn.apart 0 1 (by decide) (by decide) (by decide)⟩

end Loopback

end SocketRelay
