import Mathlib.Data.List.Forall2
import SocketRelay.Proofs.Protocol.Argument
import SocketRelay.Protocol.Request

/-!
# The grammar of requests

Which frames are requests, and what is said of the others. The grammar speaks of the document that
a frame begins with: its fields, the values of its arguments and the numbers they denote. It is
written without the reader, so `decode_grammar` is an equivalence between two accounts of one
protocol: the accepted frames are `Accepted`, and a refused frame is `Refused` with the error of the
first check that fails.

A request is handled as the list of its arguments, one for each parameter of its method; the six
methods differ in that list alone.
-/
namespace SocketRelay.Protocol
open Bson (Value Document)

def Method.parameters : Method → List Parameter
  | .socket => [.integer, .integer]
  | .socketClose => [.integer]
  | .bind => [.integer, .port]
  | .connect => [.integer, .bytes, .port]
  | .send => [.integer, .bytes]
  | .sendto => [.integer, .bytes, .port, .bytes]

@[simp] theorem Method.length_parameters (m : Method) : m.parameters.length = m.arity := by
  cases m <;> rfl

theorem Method.parameters_injective {m n : Method} (h : m.parameters = n.parameters) : m = n := by
  revert h
  cases m <;> cases n <;> decide

theorem Method.ofName?_eq_some_iff {s : String} {m : Method} : ofName? s = some m ↔ m.name = s := by
  constructor
  · intro h
    have hname := List.find?_some h
    exact of_decide_eq_true hname
  · intro h
    rw [← h]
    cases m <;> rfl

theorem Method.ofName?_eq_none_iff {s : String} : ofName? s = none ↔ ∀ m : Method, m.name ≠ s := by
  rw [Option.eq_none_iff_forall_ne_some]
  exact forall_congr' fun m => not_congr ofName?_eq_some_iff

namespace Request

/-- The arguments of a request, in order. -/
def parts : Request → List Argument
  | socket id kind => [.integer id, .integer kind]
  | socketClose id => [.integer id]
  | bind id port => [.integer id, .port port]
  | connect id address port => [.integer id, .bytes address, .port port]
  | send id data => [.integer id, .bytes data]
  | sendto id address port data => [.integer id, .bytes address, .port port, .bytes data]

theorem map_parameter_parts (r : Request) :
    r.parts.map Argument.parameter = r.method.parameters := by
  cases r <;> rfl

theorem parts_injective {r s : Request} (h : r.parts = s.parts) : r = s := by
  cases r <;> cases s <;> simp_all [parts]

end Request

/-- The first value that does not fit its position, from an index on. -/
inductive FirstMisfit : Nat → List Parameter → List Value → ArgumentFault → Prop
  | here {index : Nat} {p : Parameter} {ps : List Parameter} {v : Value} {vs : List Value}
      {f : ArgumentFault} : Misfit index p v f → FirstMisfit index (p :: ps) (v :: vs) f
  | later {index : Nat} {p : Parameter} {ps : List Parameter} {v : Value} {vs : List Value}
      {f : ArgumentFault} : Fits p v → FirstMisfit (index + 1) ps vs f →
      FirstMisfit index (p :: ps) (v :: vs) f

/-- The arguments from an index on, each looked up in the list; `none` if one is out of range. -/
def Arguments.positions? (args : Arguments) (index : Nat) :
    List Parameter → Option (Except WireError (List Argument))
  | [] => some (.ok [])
  | p :: ps =>
    match args.items[index]? with
    | none => none
    | some v =>
      match args.argument index p v with
      | .error e => some (.error e)
      | .ok a => (args.positions? (index + 1) ps).map fun rest => rest.map (a :: ·)

namespace Arguments

theorem positions?_cons {args : Arguments} {index : Nat} {p : Parameter} {ps : List Parameter}
    {v : Value} {vs : List Value} (h : args.items.drop index = v :: vs) :
    args.positions? index (p :: ps) =
      match args.argument index p v with
      | .error e => some (.error e)
      | .ok a => (args.positions? (index + 1) ps).map fun rest => rest.map (a :: ·) := by
  have hget : args.items[index]? = some v := by
    rw [← List.head?_drop, h, List.head?_cons]
  rw [positions?, hget]

theorem drop_succ {items vs : List Value} {index : Nat} {v : Value}
    (h : items.drop index = v :: vs) : items.drop (index + 1) = vs := by
  rw [← List.tail_drop, h, List.tail_cons]

theorem positions?_eq_ok_iff {args : Arguments} {index : Nat} {ps : List Parameter}
    {vs : List Value} (as : List Argument) (hvs : args.items.drop index = vs)
    (hlength : vs.length = ps.length) :
    args.positions? index ps = some (.ok as) ↔
      as.map Argument.parameter = ps ∧ List.Forall₂ Spells vs as := by
  induction ps generalizing index vs as with
  | nil =>
    rw [List.length_nil, List.length_eq_zero_iff] at hlength
    simp [positions?, hlength, eq_comm]
  | cons p ps ih =>
    cases vs with
    | nil => cases hlength
    | cons v vs =>
      have ih := fun rest => @ih (index + 1) vs rest (drop_succ hvs) (Nat.succ.inj hlength)
      rw [positions?_cons hvs]
      cases hread : args.argument index p v with
      | error e =>
        simp only [Option.some.injEq, reduceCtorEq, false_iff, not_and]
        intro hparameters hspells
        cases hspells with
        | cons ha _ =>
          rw [argument_eq_ok_iff.2 ⟨(List.cons.inj hparameters).1, ha⟩] at hread
          cases hread
      | ok a =>
        obtain ⟨hparameter, ha⟩ := argument_eq_ok_iff.1 hread
        simp only [Option.map_eq_some_iff, map_eq_ok_iff]
        constructor
        · intro h
          obtain ⟨_, hrest, rest, rfl, rfl⟩ := h
          obtain ⟨hparameters, hspells⟩ := (ih rest).1 hrest
          exact ⟨by rw [List.map_cons, hparameter, hparameters], .cons ha hspells⟩
        · intro h
          obtain ⟨hparameters, hspells⟩ := h
          cases hspells with
          | @cons _ a' _ rest ha' hspells =>
            obtain ⟨hparameter', hrest⟩ := List.cons.inj hparameters
            have hread' : args.argument index p v = .ok a' :=
              argument_eq_ok_iff.2 ⟨hparameter', ha'⟩
            rw [hread] at hread'
            cases hread'
            exact ⟨_, (ih rest).2 ⟨hrest, hspells⟩, rest, rfl, rfl⟩

theorem positions?_eq_error_iff {args : Arguments} {index : Nat} {ps : List Parameter}
    {vs : List Value} (e : WireError) (hvs : args.items.drop index = vs)
    (hlength : vs.length = ps.length) :
    args.positions? index ps = some (.error e) ↔
      ∃ f, FirstMisfit index ps vs f ∧ e = args.fault f := by
  induction ps generalizing index vs with
  | nil =>
    simp only [positions?, Option.some.injEq, reduceCtorEq, false_iff, not_exists, not_and]
    intro f hf
    cases hf
  | cons p ps ih =>
    cases vs with
    | nil => cases hlength
    | cons v vs =>
      have ih := ih (drop_succ hvs) (Nat.succ.inj hlength)
      rw [positions?_cons hvs]
      cases hread : args.argument index p v with
      | error e' =>
        obtain ⟨f, hf, rfl⟩ := argument_eq_error_iff.1 hread
        constructor
        · intro h
          cases h
          exact ⟨f, .here hf, rfl⟩
        · intro h
          obtain ⟨g, hg, rfl⟩ := h
          cases hg with
          | here hg =>
            have hread' : args.argument index p v = .error (args.fault g) :=
              argument_eq_error_iff.2 ⟨g, hg, rfl⟩
            rw [hread] at hread'
            cases hread'
            rfl
          | later hfits _ =>
            obtain ⟨a, ha⟩ := hfits
            rw [argument_eq_ok_iff.2 ha] at hread
            cases hread
      | ok a =>
        simp only [Option.map_eq_some_iff, map_eq_error_iff, exists_eq_right, ih]
        constructor
        · intro h
          obtain ⟨f, hf, rfl⟩ := h
          exact ⟨f, .later ⟨a, argument_eq_ok_iff.1 hread⟩ hf, rfl⟩
        · intro h
          obtain ⟨f, hf, rfl⟩ := h
          cases hf with
          | here hf =>
            rw [argument_eq_error_iff.2 ⟨f, hf, rfl⟩] at hread
            cases hread
          | later _ hf => exact ⟨f, hf, rfl⟩

end Arguments

namespace Request

theorem ofArguments_of_length_ne {m : Method} {items : List Value} (h : items.length ≠ m.arity) :
    ofArguments m items = .error (Arguments.wrongCount ⟨m.name, items⟩ m.arity) := by
  unfold ofArguments
  split <;> first | rfl | exact absurd rfl h

/-- The six methods read their arguments in the same way, position by position. -/
theorem positions?_parameters {m : Method} {items : List Value} (h : items.length = m.arity) :
    Arguments.positions? ⟨m.name, items⟩ 0 m.parameters =
      some ((ofArguments m items).map parts) := by
  cases m with
  | socket =>
    match items, h with
    | [a, b], _ =>
      simp only [Method.parameters, Arguments.positions?, Arguments.argument, ofArguments,
        List.getElem?_cons_zero, List.getElem?_cons_succ, zero_add]
      generalize (⟨Method.socket.name, [a, b]⟩ : Arguments) = args
      cases args.integer 0 a <;> cases args.integer 1 b <;> rfl
  | socketClose =>
    match items, h with
    | [a], _ =>
      simp only [Method.parameters, Arguments.positions?, Arguments.argument, ofArguments,
        List.getElem?_cons_zero]
      generalize (⟨Method.socketClose.name, [a]⟩ : Arguments) = args
      cases args.integer 0 a <;> rfl
  | bind =>
    match items, h with
    | [a, b], _ =>
      simp only [Method.parameters, Arguments.positions?, Arguments.argument, ofArguments,
        List.getElem?_cons_zero, List.getElem?_cons_succ, zero_add]
      generalize (⟨Method.bind.name, [a, b]⟩ : Arguments) = args
      cases args.integer 0 a <;> cases args.port 1 b <;> rfl
  | connect =>
    match items, h with
    | [a, b, c], _ =>
      simp only [Method.parameters, Arguments.positions?, Arguments.argument, ofArguments,
        List.getElem?_cons_zero, List.getElem?_cons_succ, zero_add, Nat.reduceAdd]
      generalize (⟨Method.connect.name, [a, b, c]⟩ : Arguments) = args
      cases args.integer 0 a <;> cases args.bytes 1 b <;> cases args.port 2 c <;> rfl
  | send =>
    match items, h with
    | [a, b], _ =>
      simp only [Method.parameters, Arguments.positions?, Arguments.argument, ofArguments,
        List.getElem?_cons_zero, List.getElem?_cons_succ, zero_add]
      generalize (⟨Method.send.name, [a, b]⟩ : Arguments) = args
      cases args.integer 0 a <;> cases args.bytes 1 b <;> rfl
  | sendto =>
    match items, h with
    | [a, b, c, d], _ =>
      simp only [Method.parameters, Arguments.positions?, Arguments.argument, ofArguments,
        List.getElem?_cons_zero, List.getElem?_cons_succ, zero_add, Nat.reduceAdd]
      generalize (⟨Method.sendto.name, [a, b, c, d]⟩ : Arguments) = args
      cases args.integer 0 a <;> cases args.bytes 1 b <;> cases args.port 2 c <;>
        cases args.bytes 3 d <;> rfl

/-- The arguments of a method: counted first, and then looked up. -/
def lookUp? (m : Method) (items : List Value) : Option (Except WireError (List Argument)) :=
  if items.length = m.arity then Arguments.positions? ⟨m.name, items⟩ 0 m.parameters
  else some (.error (Arguments.wrongCount ⟨m.name, items⟩ m.arity))

theorem lookUp?_eq (m : Method) (items : List Value) :
    lookUp? m items = some ((ofArguments m items).map parts) := by
  unfold lookUp?
  by_cases h : items.length = m.arity
  · rw [if_pos h, positions?_parameters h]
  · rw [if_neg h, ofArguments_of_length_ne h]
    rfl

/-- A request is read from values that spell its arguments, and from no others. -/
theorem ofArguments_eq_ok_iff {m : Method} {items : List Value} {r : Request} :
    ofArguments m items = .ok r ↔ r.method = m ∧ List.Forall₂ Spells items r.parts := by
  by_cases hlength : items.length = m.arity
  · have hwhole : (⟨m.name, items⟩ : Arguments).items.drop 0 = items := List.drop_zero
    have hread := Arguments.positions?_eq_ok_iff r.parts hwhole
      (hlength.trans m.length_parameters.symm)
    rw [positions?_parameters hlength, Option.some.injEq, map_eq_ok_iff, map_parameter_parts]
      at hread
    constructor
    · intro h
      obtain ⟨hparameters, hspells⟩ := hread.1 ⟨r, h, rfl⟩
      exact ⟨Method.parameters_injective hparameters, hspells⟩
    · intro h
      obtain ⟨rfl, hspells⟩ := h
      obtain ⟨s, hs, hparts⟩ := hread.2 ⟨rfl, hspells⟩
      rw [hs, parts_injective hparts]
  · rw [ofArguments_of_length_ne hlength]
    simp only [reduceCtorEq, false_iff, not_and]
    intro hmethod hspells
    apply hlength
    rw [hspells.length_eq, ← List.length_map Argument.parameter, map_parameter_parts, hmethod,
      Method.length_parameters]

/-- What is wrong with the arguments of a known method: their number, or else the first of them
that does not fit. -/
inductive Unfit (m : Method) (items : List Value) : ArgumentFault → Prop
  | count : items.length ≠ m.arity → Unfit m items (.count m.arity items.length)
  | argument {f : ArgumentFault} : items.length = m.arity →
      FirstMisfit 0 m.parameters items f → Unfit m items f

theorem ofArguments_eq_error_iff {m : Method} {items : List Value} {e : WireError} :
    ofArguments m items = .error e ↔ ∃ f, Unfit m items f ∧ e = .badArguments m.name f := by
  by_cases hlength : items.length = m.arity
  · have hwhole : (⟨m.name, items⟩ : Arguments).items.drop 0 = items := List.drop_zero
    have hread := Arguments.positions?_eq_error_iff e hwhole
      (hlength.trans m.length_parameters.symm)
    rw [positions?_parameters hlength, Option.some.injEq, map_eq_error_iff] at hread
    rw [hread]
    constructor
    · intro h
      obtain ⟨f, hf, rfl⟩ := h
      exact ⟨f, .argument hlength hf, rfl⟩
    · intro h
      obtain ⟨f, hf, rfl⟩ := h
      cases hf with
      | count hcount => exact absurd hlength hcount
      | argument _ hf => exact ⟨f, hf, rfl⟩
  · rw [ofArguments_of_length_ne hlength]
    constructor
    · intro h
      cases h
      exact ⟨_, .count hlength, rfl⟩
    · intro h
      obtain ⟨f, hf, rfl⟩ := h
      cases hf with
      | count _ => rfl
      | argument hcount _ => exact absurd hcount hlength

end Request

/-- The value of the last field of a key. -/
def Last (d : Document) (key : String) (v : Value) : Prop :=
  ∃ before after, d = before ++ (key, v) :: after ∧ ∀ f ∈ after, f.1 ≠ key

def Absent (d : Document) (key : String) : Prop := ∀ f ∈ d, f.1 ≠ key

/-- A field of the envelope under its long name, or under its short one if the long one is not
there at all. -/
inductive Effective (d : Document) (long short : String) : Value → Prop
  | long {v : Value} : Last d long v → Effective d long short v
  | short {v : Value} : Absent d long → Last d short v → Effective d long short v

theorem get?_eq_none_iff {d : Document} {key : String} : d.get? key = none ↔ Absent d key := by
  simp [Document.get?, Absent]

theorem get?_eq_some_iff {d : Document} {key : String} {v : Value} :
    d.get? key = some v ↔ Last d key v := by
  simp only [Document.get?, Option.map_eq_some_iff, Prod.exists, exists_eq_right,
    List.find?_eq_some_iff_append, decide_eq_true_eq, Bool.not_eq_eq_eq_not, Bool.not_true,
    decide_eq_false_iff_not]
  constructor
  · intro h
    obtain ⟨_, rfl, after, before, hd, hafter⟩ := h
    refine ⟨before.reverse, after.reverse, ?_, ?_⟩
    · rw [← List.reverse_reverse d, hd]
      simp
    · intro f hf
      exact hafter f (List.mem_reverse.1 hf)
  · intro h
    obtain ⟨before, after, rfl, hafter⟩ := h
    refine ⟨key, rfl, after.reverse, before.reverse, by simp, ?_⟩
    intro f hf
    exact hafter f (List.mem_reverse.1 hf)

theorem field_eq_some_iff {d : Document} {long short : String} {v : Value} :
    (d.get? long <|> d.get? short) = some v ↔ Effective d long short v := by
  constructor
  · intro h
    cases hlong : d.get? long with
    | some u =>
      rw [hlong] at h
      cases h
      exact .long (get?_eq_some_iff.1 hlong)
    | none =>
      rw [hlong] at h
      exact .short (get?_eq_none_iff.1 hlong) (get?_eq_some_iff.1 h)
  · intro h
    cases h with
    | long hv =>
      rw [get?_eq_some_iff.2 hv]
      rfl
    | short habsent hv =>
      rw [get?_eq_none_iff.2 habsent, get?_eq_some_iff.2 hv]
      rfl

theorem field_eq_none_iff {d : Document} {long short : String} :
    (d.get? long <|> d.get? short) = none ↔ Absent d long ∧ Absent d short := by
  rw [← get?_eq_none_iff, ← get?_eq_none_iff]
  cases d.get? long <;> simp

theorem methodName_eq_ok_iff {field s : String} {o : Option Value} :
    methodName field o = .ok s ↔ o = some (.string s) := by
  unfold methodName
  split <;> simp_all

theorem methodName_eq_error_iff {field : String} {o : Option Value} {e : WireError} :
    methodName field o = .error e ↔ o = none ∧ e = .missingField field ∨
      ∃ v, o = some v ∧ (∀ s, v ≠ .string s) ∧ e = .wrongType field "a string" := by
  unfold methodName
  split <;> simp_all [eq_comm]

theorem argumentList_eq_ok_iff {field : String} {o : Option Value} {items : List Value} :
    argumentList field o = .ok items ↔ o = some (.array items) := by
  unfold argumentList
  split <;> simp_all

theorem argumentList_eq_error_iff {field : String} {o : Option Value} {e : WireError} :
    argumentList field o = .error e ↔ o = none ∧ e = .missingField field ∨
      ∃ v, o = some v ∧ (∀ items, v ≠ .array items) ∧ e = .wrongType field "a list" := by
  unfold argumentList
  split <;> simp_all [eq_comm]

/-- The document with its name and its list of arguments. -/
structure Enveloped (d : Document) (name : String) (items : List Value) : Prop where
  method : Effective d "method" "m" (.string name)
  args : Effective d "args" "a" (.array items)

/-- The frame spells the request. -/
def Accepted (frame : Bytes) (r : Request) : Prop :=
  ∃ d items, Document.read? frame = some d ∧ Enveloped d r.method.name items ∧
    List.Forall₂ Spells items r.parts

/-- What is wrong with a document, in the order of the checks. Each case presumes that the earlier
ones do not apply. -/
inductive Faulty (d : Document) : WireError → Prop
  | methodMissing : Absent d "method" → Absent d "m" → Faulty d (.missingField "method")
  | methodMistyped {v : Value} : Effective d "method" "m" v → (∀ s, v ≠ .string s) →
      Faulty d (.wrongType "method" "a string")
  | argsMissing {name : String} : Effective d "method" "m" (.string name) →
      Absent d "args" → Absent d "a" → Faulty d (.missingField "args")
  | argsMistyped {name : String} {v : Value} : Effective d "method" "m" (.string name) →
      Effective d "args" "a" v → (∀ items, v ≠ .array items) → Faulty d (.wrongType "args" "a list")
  | unknown {name : String} {items : List Value} : Enveloped d name items →
      (∀ m : Method, m.name ≠ name) → Faulty d (.unknownMethod name)
  | arguments {m : Method} {items : List Value} {f : ArgumentFault} : Enveloped d m.name items →
      Request.Unfit m items f → Faulty d (.badArguments m.name f)

/-- The error that the frame deserves. -/
inductive Refused (frame : Bytes) : WireError → Prop
  | malformed : Document.read? frame = none → Refused frame (.malformed none)
  | document {d : Document} {e : WireError} : Document.read? frame = some d → Faulty d e →
      Refused frame e

namespace Request

theorem ofDocument_eq_ok_iff {d : Document} {r : Request} :
    ofDocument d = .ok r ↔ ∃ items, Enveloped d r.method.name items ∧
      List.Forall₂ Spells items r.parts := by
  unfold ofDocument
  simp only [bind_eq_ok_iff, methodName_eq_ok_iff, argumentList_eq_ok_iff, field_eq_some_iff]
  constructor
  · intro h
    obtain ⟨name, hname, items, hitems, h⟩ := h
    cases hm : Method.ofName? name with
    | none => simp [hm] at h
    | some m =>
      rw [hm] at h
      obtain ⟨rfl, hspells⟩ := ofArguments_eq_ok_iff.1 h
      rw [← Method.ofName?_eq_some_iff.1 hm] at hname
      exact ⟨items, ⟨hname, hitems⟩, hspells⟩
  · intro h
    obtain ⟨items, henveloped, hspells⟩ := h
    refine ⟨_, henveloped.method, items, henveloped.args, ?_⟩
    rw [Method.ofName?_eq_some_iff.2 rfl]
    exact ofArguments_eq_ok_iff.2 ⟨rfl, hspells⟩

theorem ofDocument_eq_error_iff {d : Document} {e : WireError} :
    ofDocument d = .error e ↔ Faulty d e := by
  unfold ofDocument
  simp only [bind_eq_error_iff, methodName_eq_error_iff, methodName_eq_ok_iff,
    argumentList_eq_error_iff, argumentList_eq_ok_iff, field_eq_none_iff, field_eq_some_iff]
  constructor
  · rintro ((⟨⟨hlong, hshort⟩, rfl⟩ | ⟨v, hv, hstring, rfl⟩) | ⟨name, hname, hrest⟩)
    · exact .methodMissing hlong hshort
    · exact .methodMistyped hv hstring
    rcases hrest with (⟨⟨hlong, hshort⟩, rfl⟩ | ⟨v, hv, harray, rfl⟩) | ⟨items, hitems, h⟩
    · exact .argsMissing hname hlong hshort
    · exact .argsMistyped hname hv harray
    cases hm : Method.ofName? name with
    | none =>
      rw [hm] at h
      cases h
      exact .unknown ⟨hname, hitems⟩ (Method.ofName?_eq_none_iff.1 hm)
    | some m =>
      rw [hm] at h
      obtain ⟨f, hf, rfl⟩ := ofArguments_eq_error_iff.1 h
      rw [← Method.ofName?_eq_some_iff.1 hm] at hname
      exact .arguments ⟨hname, hitems⟩ hf
  · intro h
    cases h with
    | methodMissing hlong hshort => exact .inl (.inl ⟨⟨hlong, hshort⟩, rfl⟩)
    | methodMistyped hv hstring => exact .inl (.inr ⟨_, hv, hstring, rfl⟩)
    | argsMissing hname hlong hshort =>
      exact .inr ⟨_, hname, .inl (.inl ⟨⟨hlong, hshort⟩, rfl⟩)⟩
    | argsMistyped hname hv harray =>
      exact .inr ⟨_, hname, .inl (.inr ⟨_, hv, harray, rfl⟩)⟩
    | unknown henveloped hunknown =>
      refine .inr ⟨_, henveloped.method, .inr ⟨_, henveloped.args, ?_⟩⟩
      rw [Method.ofName?_eq_none_iff.2 hunknown]
    | arguments henveloped hf =>
      refine .inr ⟨_, henveloped.method, .inr ⟨_, henveloped.args, ?_⟩⟩
      rw [Method.ofName?_eq_some_iff.2 rfl]
      exact ofArguments_eq_error_iff.2 ⟨_, hf, rfl⟩

/-- The fields that a request is read from. -/
def isEnvelopeField (f : String × Value) : Bool := f.1 ∈ ["method", "m", "args", "a"]

theorem get?_filter_isEnvelopeField {d : Document} {key : String}
    (h : key ∈ ["method", "m", "args", "a"]) :
    Document.get? (d.filter isEnvelopeField) key = d.get? key := by
  unfold Document.get?
  rw [← List.filter_reverse, List.find?_filter]
  congr 2
  ext f
  by_cases hf : f.1 = key
  · simp [isEnvelopeField, hf, h]
  · simp [hf]

theorem ofDocument_filter (d : Document) :
    ofDocument (d.filter isEnvelopeField) = ofDocument d := by
  simp [ofDocument, get?_filter_isEnvelopeField]

/-- Requests are the frames of the grammar, and every other frame is refused with its first fault.
Only the fields of the envelope count, and no argument is looked for where the list has none. -/
theorem decode_grammar :
    (∀ frame r, decode frame = .ok r ↔ Accepted frame r) ∧
    (∀ frame e, decode frame = .error e ↔ Refused frame e) ∧
    (∀ frame frame' d d', Document.read? frame = some d → Document.read? frame' = some d' →
      d.filter isEnvelopeField = d'.filter isEnvelopeField → decode frame = decode frame') ∧
    (∀ m items, lookUp? m items = some ((ofArguments m items).map parts)) := by
  refine ⟨?_, ?_, ?_, lookUp?_eq⟩
  · intro frame r
    unfold decode readDocument Accepted
    cases hread : Document.read? frame with
    | none => simp [bind_eq_ok_iff]
    | some d => simp [bind_eq_ok_iff, ofDocument_eq_ok_iff]
  · intro frame e
    unfold decode readDocument
    cases hread : Document.read? frame with
    | none =>
      simp only [bind_eq_error_iff, Except.error.injEq, reduceCtorEq, false_and, exists_false,
        or_false]
      constructor
      · intro h
        rw [← h]
        exact .malformed hread
      · intro h
        cases h with
        | malformed _ => rfl
        | document hsome _ =>
          rw [hread] at hsome
          cases hsome
    | some d =>
      simp only [bind_eq_error_iff, reduceCtorEq, Except.ok.injEq, exists_eq_left', false_or,
        ofDocument_eq_error_iff]
      constructor
      · exact fun h => .document hread h
      · intro h
        cases h with
        | malformed hnone =>
          rw [hread] at hnone
          cases hnone
        | document hsome hfaulty =>
          rw [hread] at hsome
          cases hsome
          exact hfaulty
  · intro frame frame' d d' hd hd' hfields
    unfold decode readDocument
    rw [hd, hd']
    change ofDocument d = ofDocument d'
    rw [← ofDocument_filter d, hfields, ofDocument_filter]

/-- A long name of the wrong type is not made up for by a short one. -/
example : ofDocument [("method", .null), ("m", .string "send"), ("a", .array [])] =
    .error (.wrongType "method" "a string") := by rfl

end Request

end SocketRelay.Protocol
