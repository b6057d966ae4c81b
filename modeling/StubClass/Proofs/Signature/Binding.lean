import Mathlib.Data.List.Find
import StubClass.Proofs.Method.Builder
import StubClass.Proofs.Signature.Forming

set_option autoImplicit false

/-! # Which calls fit a member

The binding of a call goes through the slots twice, once for what is given by position and once for
what is given by keyword, and takes away the keywords that it has used. `Arguments.fault?` says what
comes of this by looking at whole lists: at the parameters that are given by position, at those
behind them, and at all keywords. `invoke_eq_fault?` proves the two equal for every member whose
definition was frozen from a builder, with the words of the error. -/

namespace StubClass

/-! ## The rule -/

/-- Whether a call has to give a parameter: it is declared without a default, or with the one that
stands for none. -/
def Parameter.mustBeGiven (p : Parameter) : Bool :=
  !p.kind.hasDefault || p.default.isNoDefault

theorem Parameter.mustBeGiven_eq (p : Parameter) :
    p.mustBeGiven = !p.effectiveKind.hasDefault := by
  unfold mustBeGiven effectiveKind
  cases p.default.isNoDefault <;> cases p.kind <;> rfl

namespace Arguments

/-- Whether a parameter is given by keyword. -/
def isNamed (a : Arguments) (p : Parameter) : Bool :=
  gives a.keywords p.name.toName

/-- The first reason why a call does not fit parameters in the order of a call, if there is any. -/
def fault? (a : Arguments) (ps : List Parameter) : Option (BindFault Name) :=
  let places := ps.countP fun p => !p.kind.isKeyword
  match (ps.take (min a.positional.length places)).find? a.isNamed with
  | some p => some (.multipleValues p.name.toName)
  | none =>
    if places < a.positional.length then some .tooManyPositionals
    else
      match (ps.drop a.positional.length).find? fun p => p.mustBeGiven && !a.isNamed p with
      | some p => some (.missing p.name.toName)
      | none =>
        match a.keywords.find? fun k => !ps.any fun p => p.name.same k.1 with
        | some k => some (.unexpectedKeyword k.1)
        | none => none

theorem fault?_map_effective (a : Arguments) (ps : List Parameter) :
    a.fault? (ps.map Parameter.effective) = a.fault? ps := by
  have hplaces : (fun p : Parameter => !p.kind.isKeyword) ∘ Parameter.effective =
      fun p => !p.kind.isKeyword := by
    funext p
    simp [Parameter.isKeyword_effectiveKind]
  have hnamed : a.isNamed ∘ Parameter.effective = a.isNamed := rfl
  have hlacks : (fun p => p.mustBeGiven && !a.isNamed p) ∘ Parameter.effective =
      fun p => p.mustBeGiven && !a.isNamed p := by
    funext p
    rw [Function.comp_apply, Parameter.mustBeGiven_eq, Parameter.effectiveKind_effective,
      ← Parameter.mustBeGiven_eq]
    rfl
  have hsame (k : Name) : (fun p : Parameter => p.name.same k) ∘ Parameter.effective =
      fun p => p.name.same k := rfl
  unfold fault?
  simp only [List.countP_map, ← List.map_take, ← List.map_drop, List.find?_map, List.any_map,
    hplaces, hnamed, hlacks, hsame]
  cases (ps.take (min a.positional.length (ps.countP fun p => !p.kind.isKeyword))).find?
    a.isNamed with
  | some p => rfl
  | none =>
      simp only [Option.map_none]
      cases (ps.drop a.positional.length).find? fun p => p.mustBeGiven && !a.isNamed p <;> rfl

/-- Whether two calls give as much by position, and the same names by keyword in the same order. -/
def SameShape (a b : Arguments) : Prop :=
  a.positional.length = b.positional.length ∧ a.keywords.map (·.1) = b.keywords.map (·.1)

/-- The rule does not look at what is given. -/
theorem fault?_congr {a b : Arguments} (h : a.SameShape b) (ps : List Parameter) :
    a.fault? ps = b.fault? ps := by
  obtain ⟨hpositional, hkeywords⟩ := h
  have hgives (f : Name → Bool) :
      (a.keywords.any fun k => f k.1) = b.keywords.any fun k => f k.1 := by
    have hany := congrArg (List.any · f) hkeywords
    simpa only [List.any_map, Function.comp_def] using hany
  have hfind (f : Name → Bool) : (a.keywords.find? fun k => f k.1).map (·.1) =
      (b.keywords.find? fun k => f k.1).map (·.1) := by
    have hfound := congrArg (List.find? f) hkeywords
    simpa only [List.find?_map, Function.comp_def] using hfound
  have hnamed : a.isNamed = b.isNamed := by
    funext p
    exact hgives p.name.toName.same
  have hlast := hfind fun k => !ps.any fun p => p.name.same k
  unfold fault?
  simp only [hpositional, hnamed]
  cases ha : a.keywords.find? fun k => !ps.any fun p => p.name.same k.1 <;>
    cases hb : b.keywords.find? fun k => !ps.any fun p => p.name.same k.1 <;>
    simp only [ha, hb, Option.map_none, Option.map_some, Option.some.injEq, reduceCtorEq] at hlast
  · rfl
  · simp only [hlast]

end Arguments

namespace Signature

/-! ## One slot -/

variable (keywords : List (Name × Value)) (p : Parameter)

theorem slot_isOfKind {k : FormalKind} (hp : k ≠ .positional) (hk : k ≠ .keywordOnly) :
    fitting.isOfKind p.slot k = pure false := by
  simp only [fitting, Parameter.slot]
  cases p.kind.isKeyword <;> cases k <;> first | rfl | contradiction

theorem slot_goesByKeywordOnly : fitting.goesByKeywordOnly p.slot = pure p.kind.isKeyword := by
  simp only [fitting, Parameter.slot]
  cases p.kind.isKeyword <;> rfl

theorem slot_name : fitting.name p.slot = pure p.name.toName :=
  rfl

theorem slot_hasDefault : fitting.hasDefault p.slot = pure p.effectiveKind.hasDefault := by
  simp only [fitting, Parameter.slot]
  cases p.effectiveKind.hasDefault <;> rfl

theorem isGiven_run (name : Name) :
    (fitting.isGiven name).run keywords = .ok (gives keywords name, keywords) :=
  rfl

theorem pull?_run (name : Name) :
    (fitting.pull? name).run keywords =
      match keywords.find? fun k => name.same k.1 with
      | some k => .ok (some k.2, without keywords name)
      | none => .ok (none, keywords) :=
  rfl

/-- When nothing more is given by position, the next parameter has to do without. -/
theorem byPosition_nil_cons (rest : List Slot) :
    (fitting.byPosition [] (p.slot :: rest)).run keywords =
      if gives keywords p.name.toName || p.effectiveKind.hasDefault then
        .ok (p.slot :: rest, keywords)
      else .error (.missing p.name.toName) := by
  simp (disch := decide) only [Fitting.byPosition, slot_isOfKind, slot_name, slot_hasDefault,
    pure_bind, Bool.false_eq_true, if_false, StateT.run_bind, isGiven_run]
  cases p.effectiveKind.hasDefault <;> cases gives keywords p.name.toName <;> rfl

theorem byPosition_cons_cons (x : Value) (given : List Value) (rest : List Slot) :
    (fitting.byPosition (x :: given) (p.slot :: rest)).run keywords =
      if p.kind.isKeyword then .error .tooManyPositionals
      else if gives keywords p.name.toName then .error (.multipleValues p.name.toName)
      else (fitting.byPosition given rest).run keywords := by
  simp (disch := decide) only [Fitting.byPosition, slot_isOfKind, slot_goesByKeywordOnly,
    slot_name, pure_bind, map_pure, Bool.false_eq_true, if_false]
  cases p.kind.isKeyword with
  | true => rfl
  | false =>
      simp only [Bool.false_eq_true, if_false, andM, StateT.run_bind, isGiven_run]
      cases gives keywords p.name.toName <;> rfl

theorem byKeyword_cons (further : Option Slot) (rest : List Slot) :
    (fitting.byKeyword further (p.slot :: rest)).run keywords =
      if gives keywords p.name.toName then
        (fitting.byKeyword further rest).run (without keywords p.name.toName)
      else if p.effectiveKind.hasDefault then (fitting.byKeyword further rest).run keywords
      else .error (.missing p.name.toName) := by
  simp (disch := decide) only [Fitting.byKeyword, slot_isOfKind, slot_name, slot_hasDefault,
    pure_bind, map_pure, Bool.false_eq_true, if_false, StateT.run_bind, pull?_run]
  have hgives : gives keywords p.name.toName = _ := List.isSome_find?.symm
  rw [hgives]
  cases keywords.find? fun k => p.name.same k.1 with
  | some k => rfl
  | none => cases p.effectiveKind.hasDefault <;> rfl

/-! ## All slots -/

/-- A parameter of another name is given what it was given before a name was taken away. -/
theorem gives_without {p q : Parameter} (h : p.name.text ≠ q.name.text) :
    gives (without keywords p.name.toName) q.name.toName = gives keywords q.name.toName := by
  rw [gives, without, List.any_filter, gives]
  congr 1
  funext k
  cases hq : q.name.same k.1 with
  | false => simp
  | true =>
      have hpk : p.name.same k.1 = false := by
        rw [Bool.eq_false_iff, ne_eq, Name.same_iff, ← (Name.same_iff _ _).1 hq]
        exact h
      simp [hpk]

/-- What is given by keyword is used up parameter by parameter; the first parameter that gets
nothing and has no default fails. -/
theorem byKeyword_run {ps : List Parameter} (hps : (ps.map fun p => p.name.text).Nodup) :
    (fitting.byKeyword none (ps.map Parameter.slot)).run keywords =
      match ps.find? fun p => !p.effectiveKind.hasDefault && !gives keywords p.name.toName with
      | some p => .error (.missing p.name.toName)
      | none => .ok (none, keywords.filter fun k => !ps.any fun p => p.name.same k.1) := by
  induction ps generalizing keywords with
  | nil =>
      have hall : (keywords.filter fun _ => true) = keywords := List.filter_eq_self.2 (by simp)
      simp only [List.map_nil, Fitting.byKeyword, List.find?_nil, List.any_nil, Bool.not_false,
        hall]
      rfl
  | cons p ps ih =>
      rw [List.map_cons, List.nodup_cons] at hps
      obtain ⟨hp, hps⟩ := hps
      rw [List.map_cons, byKeyword_cons, List.find?_cons]
      cases hgiven : gives keywords p.name.toName with
      | true =>
          -- what is taken away for `p` is missed by no other parameter, as names are distinct
          have hrest : ∀ q ∈ ps,
              (!q.effectiveKind.hasDefault &&
                  !gives (without keywords p.name.toName) q.name.toName) =
                (!q.effectiveKind.hasDefault && !gives keywords q.name.toName) := fun q hq => by
            rw [gives_without]
            exact fun heq => hp (List.mem_map.2 ⟨q, hq, heq.symm⟩)
          have hleft : (fun k : Name × Value => (!ps.any fun q => q.name.same k.1) &&
              !p.name.same k.1) = fun k => !(p :: ps).any fun q => q.name.same k.1 := by
            funext k
            rw [List.any_cons, Bool.not_or, Bool.and_comm]
          rw [if_pos rfl, ih _ hps, List.find?_congr hrest, without, List.filter_filter, hleft,
            Bool.not_true, Bool.and_false]
      | false =>
          have hnone : ∀ k ∈ keywords, p.name.same k.1 = false := by
            simpa [gives] using hgiven
          cases hdefault : p.effectiveKind.hasDefault with
          | true =>
              rw [if_neg (by simp), if_pos rfl, ih _ hps]
              have hleft : (keywords.filter fun k => !(p :: ps).any fun p => p.name.same k.1) =
                  keywords.filter fun k => !ps.any fun p => p.name.same k.1 :=
                List.filter_congr fun k hk => by rw [List.any_cons, hnone k hk, Bool.false_or]
              rw [hleft]
              rfl
          | false => rfl

/-- That the first of the parameters that are left has to do without is asked again when it is their
turn by keyword. -/
theorem byPosition_nil_then (ps : List Parameter) :
    (fitting.byPosition [] (ps.map Parameter.slot) >>= fitting.byKeyword none).run keywords =
      (fitting.byKeyword none (ps.map Parameter.slot)).run keywords := by
  cases ps with
  | nil => rfl
  | cons p ps =>
      rw [StateT.run_bind, List.map_cons, byPosition_nil_cons]
      split
      · rfl
      · next hlacks =>
          rw [Bool.or_eq_true, not_or] at hlacks
          rw [byKeyword_cons, if_neg hlacks.1, if_neg hlacks.2]
          rfl

/-- Both ways through the parameters: those that are given by position come first, then there may be
too much by position, then those behind have to be given by keyword. -/
theorem byPosition_then_byKeyword {ps : List Parameter} (hps : InCallOrder ps)
    (hdistinct : (ps.map fun p => p.name.text).Nodup) (given : List Value) :
    (fitting.byPosition given (ps.map Parameter.slot) >>= fitting.byKeyword none).run keywords =
      match (ps.take (min given.length (ps.countP fun p => !p.kind.isKeyword))).find?
          fun p => gives keywords p.name.toName with
      | some p => .error (.multipleValues p.name.toName)
      | none =>
        if (ps.countP fun p => !p.kind.isKeyword) < given.length then .error .tooManyPositionals
        else
          match (ps.drop given.length).find?
              fun p => !p.effectiveKind.hasDefault && !gives keywords p.name.toName with
          | some p => .error (.missing p.name.toName)
          | none =>
            .ok (none, keywords.filter fun k =>
              !(ps.drop given.length).any fun p => p.name.same k.1) := by
  induction ps generalizing given with
  | nil =>
      cases given with
      | nil =>
          rw [byPosition_nil_then, byKeyword_run _ hdistinct]
          rfl
      | cons x given => rfl
  | cons p ps ih =>
      cases given with
      | nil =>
          rw [byPosition_nil_then, byKeyword_run _ hdistinct]
          simp only [List.length_nil, Nat.zero_min, List.take_zero, List.find?_nil, Nat.not_lt_zero,
            if_false, List.drop_zero]
      | cons x given =>
          have hstep := byPosition_cons_cons keywords p x given (ps.map Parameter.slot)
          rw [StateT.run_bind, List.map_cons, hstep]
          cases hkeyword : p.kind.isKeyword with
          | true =>
              -- with this one the places for arguments are over, and one is still there
              rw [hps.countP_eq_zero hkeyword]
              rfl
          | false =>
              rw [if_neg (by simp), List.countP_cons, hkeyword, Bool.not_false, if_pos rfl,
                List.length_cons, Nat.succ_min_succ, List.take_succ_cons, List.find?_cons,
                List.drop_succ_cons]
              cases hgiven : gives keywords p.name.toName with
              | true => rfl
              | false =>
                  have hrest := ih hps.tail (List.nodup_cons.1 hdistinct).2 given
                  rw [StateT.run_bind] at hrest
                  simp only [Bool.false_eq_true, if_false, hrest, Nat.add_lt_add_iff_right]

/-- What is left at the end does not fit, as there is no slot for all further keywords. -/
theorem run_of_byKeyword {given : List Value} {slots : List Slot} {left : List (Name × Value)}
    (h : (fitting.byPosition given slots >>= fitting.byKeyword none).run keywords =
      .ok (none, left)) :
    (fitting.run given slots).run' keywords =
      match left.head? with
      | some k => .error (.unexpectedKeyword k.1)
      | none => .ok () := by
  rw [Fitting.run, ← bind_assoc]
  show Except.map _ (StateT.run _ _) = _
  rw [StateT.run_bind, h]
  cases left with
  | nil => rfl
  | cons k left => rfl

theorem run_of_error {given : List Value} {slots : List Slot} {fault : BindFault Name}
    (h : (fitting.byPosition given slots >>= fitting.byKeyword none).run keywords =
      .error fault) :
    (fitting.run given slots).run' keywords = .error fault := by
  rw [Fitting.run, ← bind_assoc]
  show Except.map _ (StateT.run _ _) = _
  rw [StateT.run_bind, h]
  rfl

/-- A keyword that names no parameter behind those given by position names none at all, if none of
those is named. -/
theorem any_same_drop {ps : List Parameter} {n : Nat}
    (h : (ps.take n).find? (fun p => gives keywords p.name.toName) = none) :
    ∀ k ∈ keywords, (!(ps.drop n).any fun p => p.name.same k.1) =
      !ps.any fun p => p.name.same k.1 := by
  intro k hk
  have hfirst : ((ps.take n).any fun p => p.name.same k.1) = false := by
    rw [List.any_eq_false]
    intro p hp hsame
    exact List.find?_eq_none.1 h p hp (List.any_eq_true.2 ⟨k, hk, hsame⟩)
  conv_rhs => rw [← List.take_append_drop n ps, List.any_append, hfirst, Bool.false_or]

theorem bind_eq_fault? {ps : List Parameter} (hps : InCallOrder ps)
    (hdistinct : (ps.map fun p => p.name.text).Nodup) (a : Arguments) :
    bind ⟨ps.map Parameter.slot⟩ a =
      match a.fault? ps with
      | some fault => .error fault
      | none => .ok () := by
  have hrun := byPosition_then_byKeyword a.keywords hps hdistinct a.positional
  unfold bind Arguments.fault? Arguments.isNamed
  simp only [Parameter.mustBeGiven_eq]
  split at hrun
  · exact run_of_error _ hrun
  · next htwice =>
      split at hrun
      · next hplaces =>
          rw [if_pos hplaces]
          exact run_of_error _ hrun
      · next hplaces =>
          rw [if_neg hplaces]
          split at hrun
          · exact run_of_error _ hrun
          · rw [Nat.min_eq_left (Nat.not_lt.1 hplaces)] at htwice
            rw [run_of_byKeyword _ hrun, List.head?_filter,
              List.find?_congr (any_same_drop a.keywords htwice)]
            cases a.keywords.find? fun k => !ps.any fun p => p.name.same k.1 <;> rfl

end Signature

/-! ## Errors -/

/-- The words for a reason why a call does not fit. -/
def BindFault.words : BindFault Name → String
  | tooManyPositionals => "too many positional arguments"
  | multipleValues name => "multiple values for argument " ++ name.toValue.literal
  | missing name => "missing a required argument: " ++ name.toValue.literal
  | unexpectedKeyword name => "got an unexpected keyword argument " ++ name.toValue.literal
  | positionalOnly name =>
    name.toValue.literal ++ " parameter is positional only, but was passed as a keyword"

theorem BindFault.reason_eq_words (fault : BindFault Name) : fault.reason = fault.words := by
  cases fault with
  | tooManyPositionals => rfl
  | multipleValues name | missing name | unexpectedKeyword name => exact String.append_empty
  | positionalOnly name => exact congrArg (· ++ _) String.empty_append

/-- Whether an error says that a call of a method does not fit its signature, and why. -/
structure Error.SaysUnfit (e : Error) (method : Value) (signature reason : String) : Prop where
  report : e.report? = some ⟨.arity,
    [("method", method), ("signature", .str signature), ("reason", .str reason)]⟩
  message : e.message = method.plain ++ signature ++ ": " ++ reason
  cause : e.cause? = some (.ordinary .badType reason)

theorem Error.arity_saysUnfit (method : Value) (signature : String) (fault : BindFault Name) :
    (Error.arity method signature fault).SaysUnfit method signature fault.words where
  report := by rw [← fault.reason_eq_words]; rfl
  message := by rw [← fault.reason_eq_words]; rfl
  cause := by rw [← fault.reason_eq_words]; rfl

namespace Stub

/-- Whether an error is that of a call which does not fit for a reason: it says so and shows the
signature as it looks, or it is that the signature cannot be written. -/
def IsRefusal (s : Stub) (look : Look) (fault : BindFault Name) (e : Error) : Prop :=
  if (s.signature.looked look).isWritable then
    e.SaysUnfit s.definition.name (s.signature.looked look).text fault.words
  else e = .unwritable

theorem isRefusal_refusal (s : Stub) (look : Look) (fault : BindFault Name) :
    s.IsRefusal look fault (s.refusal look fault) := by
  unfold IsRefusal refusal Signature.written
  cases (s.signature.looked look).isWritable with
  | true => exact Error.arity_saysUnfit ..
  | false => rfl

/-- A member whose signature binds by the rule is called by it. -/
theorem invoke_of_bind {s : Stub} {ps : List Parameter} {a : Arguments}
    (h : s.signature.bind a = match a.fault? ps with
      | some fault => .error fault
      | none => .ok ()) (look : Look) {m : Type → Type} [Monad m]
    (resolve : m (Except Error Value)) :
    s.invoke look resolve a =
      match a.fault? ps with
      | some fault => pure (.error (s.refusal look fault))
      | none => resolve := by
  simp only [invoke, judge, h]
  cases a.fault? ps <;> rfl

/-- Every member binds its calls by the rule, wherever its definition comes from. -/
theorem invoke_of_create {d : MethodDefinition} {s : Stub} (h : create d = .ok s) (look : Look)
    {m : Type → Type} [Monad m] (resolve : m (Except Error Value)) (a : Arguments) :
    s.invoke look resolve a =
      match a.fault? d.parameters with
      | some fault => pure (.error (s.refusal look fault))
      | none => resolve := by
  obtain ⟨⟨-, -, hwf⟩, rfl⟩ := (create_eq_ok_iff d s).1 h
  have hslots : (d.parameters.map Parameter.effective).map Parameter.slot =
      d.parameters.map Parameter.slot := by
    rw [List.map_map]
    exact List.map_congr_left fun p _ => p.slot_effective
  -- in order are the parameters as they are in a signature, and these have the same slots
  have hbind := Signature.bind_eq_fault? hwf.inOrder hwf.distinct a
  rw [hslots, Arguments.fault?_map_effective] at hbind
  exact invoke_of_bind hbind look resolve

/-- **A member binds its calls by the rule.** Whatever verbs a builder was given, what is frozen
from it becomes a member exactly if no default stands for none before parameters that need theirs,
and all defaults can be written. A call of the member from inside is the resolving of the return
value and nothing else when its arguments fit, and they fit when everything is given that is
declared without a default, or with the one that stands for none. Else it is refused, whatever is to
be resolved, and the error says the first reason why they do not fit and shows the signature as it
looks then; or it is that the signature cannot be written. -/
theorem invoke_eq_fault? {name visibility : Value} {b : MethodBuilder}
    (h : MethodBuilder.create name visibility = .ok b) (verbs : List Verb) :
    let d := (b.run verbs).1.freeze
    let s : Stub := ⟨d, ⟨d.parameters.map Parameter.slot⟩⟩
    (create d = .ok s ↔
      InCallOrder (d.parameters.map Parameter.effective) ∧ d.isWritable = true) ∧
      ∀ (look : Look) (m : Type → Type) [Monad m] (resolve : m (Except Error Value))
        (a : Arguments),
        match a.fault? d.parameters with
        | none => s.invoke look resolve a = resolve
        | some fault => ∃ e, s.invoke look resolve a = pure (.error e) ∧
            s.IsRefusal look fault e := by
  intro d s
  obtain ⟨i, v, rfl⟩ := MethodBuilder.create_eq_ok h
  obtain ⟨hname, -⟩ := MethodBuilder.run_name_visibility (.empty i v) verbs
  have hwf : WellFormed d.visibility d.parameters :=
    MethodBuilder.run_wellFormed (.empty i v) verbs (.nil v)
  have htext : d.name.text? = some i.text := by
    rw [← i.text?_toValue]
    exact congrArg (fun j : Identifier => j.toValue.text?) hname
  refine ⟨?_, fun look m _ resolve a => ?_⟩
  · rw [create_eq_ok_iff, wellFormed_effective_iff]
    constructor
    · rintro ⟨⟨-, hwritable, hinOrder, -⟩, -⟩
      exact ⟨hinOrder, hwritable⟩
    · rintro ⟨hinOrder, hwritable⟩
      exact ⟨⟨⟨_, htext⟩, hwritable, hinOrder, hwf.distinct, hwf.notReceiver⟩, rfl⟩
  have hbind : s.signature.bind a = _ := Signature.bind_eq_fault? hwf.inOrder hwf.distinct a
  have hinvoke := invoke_of_bind hbind look resolve
  cases hfault : a.fault? d.parameters with
  | none => rwa [hfault] at hinvoke
  | some fault =>
      rw [hfault] at hinvoke
      exact ⟨_, hinvoke, s.isRefusal_refusal look fault⟩

/-- A call of `render` that gives its page by position and by keyword too is refused for that, and
not for the format that is missing. -/
theorem invoke_eq_fault?_render :
    let resolve : Id (Except Error Value) := pure (.ok .null)
    let render : MethodBuilder := .empty ⟨.ofText "render", by decide +kernel⟩ .publicMember
    let verbs : List Verb :=
      [.parameter .required (.str "page") .null, .parameter .keywordRequired (.str "format") .null]
    let d := (render.run verbs).1.freeze
    let s : Stub := ⟨d, ⟨d.parameters.map Parameter.slot⟩⟩
    MethodBuilder.create (.str "render") (.str "public") = .ok render ∧
      ∃ e, s.invoke .plain resolve ⟨[.str "index"], [(.ofText "page", .str "home")]⟩ =
          .error e ∧
        e.message = "render(page, *, format): multiple values for argument 'page'" := by
  intro resolve render verbs d s
  have hcreate : MethodBuilder.create (.str "render") (.str "public") = .ok render := rfl
  have hcalls := (invoke_eq_fault? hcreate verbs).2 .plain Id resolve
    ⟨[.str "index"], [(.ofText "page", .str "home")]⟩
  have hfault : Arguments.fault? ⟨[.str "index"], [(.ofText "page", .str "home")]⟩
      (render.run verbs).1.freeze.parameters = some (.multipleValues (.ofText "page")) := rfl
  have hwritable : (s.signature.looked .plain).isWritable = true := rfl
  have htext : (s.signature.looked .plain).text = "(page, *, format)" := by decide +kernel
  rw [hfault] at hcalls
  obtain ⟨e, hinvoke, hrefusal⟩ := hcalls
  have hsays : e.SaysUnfit _ _ _ := (if_pos hwritable).mp hrefusal
  refine ⟨hcreate, e, hinvoke, hsays.message.trans ?_⟩
  rw [htext]
  decide +kernel

end Stub

end StubClass
