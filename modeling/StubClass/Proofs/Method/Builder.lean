import StubClass.Proofs.Method.Order

set_option autoImplicit false

/-! # What a builder holds after any verbs

A builder is run through verbs, going on after those that fail. `run_accepts_wellFormed` says what
it holds then: its parameters are well formed whatever the verbs were, one more parameter is
accepted exactly when they stay so, and the definition that is frozen has the accepted parameters in
order with the last return value and the last wish for random values. The check of `append` against
the last parameter alone meets the rule for the whole list by `wellFormed_append_iff`. -/

namespace StubClass

namespace MethodBuilder

/-! ## One more parameter -/

theorem takes_eq_true_iff (b : MethodBuilder) (n : Name) :
    b.takes n = true ↔
      n.text = b.visibility.receiver.text ∨ ∃ p ∈ b.parameters, p.name.text = n.text := by
  simp [takes, Name.same_iff]

theorem orderFault?_eq_none_iff (b : MethodBuilder) (k : ParameterKind) :
    b.orderFault? k = none ↔ ∀ q ∈ b.parameters.getLast?, q.kind.rank ≤ k.rank := by
  unfold orderFault?
  cases b.parameters.getLast? with
  | none => simp
  | some last =>
      simp only [Option.mem_some_iff, forall_eq']
      cases k <;> cases last.kind <;> simp [ParameterKind.isKeyword, ParameterKind.rank]

/-- The broken rule is the one about parameters by keyword when there is any in the list. -/
theorem orderFault?_eq_some {b : MethodBuilder} (hb : InCallOrder b.parameters)
    {k : ParameterKind} {rule : OrderRule} (h : b.orderFault? k = some rule) :
    rule = .positionalAfterKeyword ↔ ∃ q ∈ b.parameters, q.kind.isKeyword = true := by
  unfold orderFault? at h
  cases hl : b.parameters.getLast? with
  | none => simp [hl] at h
  | some last =>
      simp only [hl] at h
      split at h
      · next hk =>
          obtain ⟨-, hlast⟩ := Bool.and_eq_true_iff.1 hk
          cases h
          exact iff_of_true rfl ⟨last, List.mem_of_getLast? hl, hlast⟩
      · split at h
        · next hk =>
            cases h
            have hlast : last.kind = .optional := by simpa using (Bool.and_eq_true_iff.1 hk).2
            -- a keyword parameter would stand before an optional one
            refine iff_of_false (by simp) ?_
            rintro ⟨q, hq, hkeyword⟩
            have hle : q.kind.rank ≤ last.kind.rank := hb.notBehind_last hl hq
            rw [(ParameterKind.isKeyword_iff _).1 hkeyword, hlast] at hle
            simp [ParameterKind.rank] at hle
        · cases h

/-- What becomes of a parameter that is given to a builder by its parts: the first rule that it
breaks refuses it, and if it breaks none it stands at the end of the list. -/
inductive Judged (b : MethodBuilder) (kind : ParameterKind) (name default : Value) :
    Except Error MethodBuilder → Prop
  | invalid (h : Identifier.ofValue? name = none) :
      Judged b kind name default (.error (.showing name (.invalidIdentifier name "parameter")))
  | duplicate (i : Identifier) (h : Identifier.ofValue? name = some i)
      (hi : i.text = b.visibility.receiver.text ∨ ∃ p ∈ b.parameters, p.name.text = i.text) :
      Judged b kind name default (.error (.duplicateParameter b.name.toName i.toName))
  | disordered (i : Identifier) (rule : OrderRule) (h : Identifier.ofValue? name = some i)
      (hi : i.text ≠ b.visibility.receiver.text ∧ ∀ p ∈ b.parameters, p.name.text ≠ i.text)
      (ho : ¬ InCallOrder (b.parameters ++ [⟨kind, i, default⟩]))
      (hr : rule = .positionalAfterKeyword ↔ ∃ q ∈ b.parameters, q.kind.isKeyword = true) :
      Judged b kind name default (.error (.parameterOrder b.name.toName i.toName rule))
  | accepted (i : Identifier) (h : Identifier.ofValue? name = some i)
      (hw : WellFormed b.visibility (b.parameters ++ [⟨kind, i, default⟩])) :
      Judged b kind name default
        (.ok { b with parameters := b.parameters ++ [⟨kind, i, default⟩] })

theorem apply_parameter (b : MethodBuilder) (kind : ParameterKind) (name default : Value) :
    b.apply (.parameter kind name default) =
      match Identifier.ofValue? name with
      | none => .error (.showing name (.invalidIdentifier name "parameter"))
      | some i => b.append ⟨kind, i, default⟩ := by
  unfold apply Parameter.create requireIdentifier
  simp only [ParameterKind.ofValue?]
  cases Identifier.ofValue? name <;> rfl

/-- A builder with well-formed parameters judges one more parameter by the rules for the list. -/
theorem judged_apply (b : MethodBuilder) (kind : ParameterKind) (name default : Value)
    (hb : WellFormed b.visibility b.parameters) :
    b.Judged kind name default (b.apply (.parameter kind name default)) := by
  rw [apply_parameter]
  cases hname : Identifier.ofValue? name with
  | none => exact .invalid hname
  | some i =>
      simp only [append]
      by_cases ht : b.takes i.toName = true
      · rw [if_pos ht]
        exact .duplicate i hname ((takes_eq_true_iff b i.toName).1 ht)
      · rw [if_neg ht]
        have hnew : i.text ≠ b.visibility.receiver.text ∧
            ∀ p ∈ b.parameters, p.name.text ≠ i.text := by
          obtain ⟨hreceiver, hused⟩ := not_or.1 (mt (takes_eq_true_iff b i.toName).2 ht)
          exact ⟨hreceiver, fun p hp he => hused ⟨p, hp, he⟩⟩
        have hfault := orderFault?_eq_none_iff b kind
        cases ho : b.orderFault? kind with
        | none =>
            refine .accepted i hname ((wellFormed_append_iff _ _ _).2 ⟨hb, hnew, ?_⟩)
            exact hfault.1 ho
        | some rule =>
            refine .disordered i rule hname hnew (fun hin => ?_) (orderFault?_eq_some hb.inOrder ho)
            have hnone := hfault.2 ((inCallOrder_append_iff _ _).1 hin).2
            rw [ho] at hnone
            cases hnone

/-- A parameter is accepted exactly when the list stays well formed with it. -/
theorem apply_parameter_ok_iff (b : MethodBuilder) (kind : ParameterKind) (name default : Value)
    (hb : WellFormed b.visibility b.parameters) :
    (∃ next, b.apply (.parameter kind name default) = .ok next) ↔
      ∃ i, Identifier.ofValue? name = some i ∧
        WellFormed b.visibility (b.parameters ++ [⟨kind, i, default⟩]) := by
  have hj := judged_apply b kind name default hb
  generalize b.apply (.parameter kind name default) = answer at hj
  cases hj with
  | invalid h => simp [h]
  | duplicate i h hi =>
      simp only [reduceCtorEq, exists_false, h, Option.some.injEq, exists_eq_left', false_iff]
      intro hw
      obtain ⟨-, ⟨hreceiver, hnew⟩, -⟩ := (wellFormed_append_iff _ _ _).1 hw
      rcases hi with hi | ⟨p, hp, hi⟩
      · exact hreceiver hi
      · exact hnew p hp hi
  | disordered i rule h hi ho hr =>
      simp only [reduceCtorEq, exists_false, h, Option.some.injEq, exists_eq_left', false_iff]
      exact fun hw => ho hw.inOrder
  | accepted i h hw => simp [h, hw]

/-! ## Runs -/

theorem run_append (b : MethodBuilder) (vs ws : List Verb) :
    b.run (vs ++ ws) =
      (((b.run vs).1.run ws).1, (b.run vs).2 ++ ((b.run vs).1.run ws).2) := by
  induction vs generalizing b with
  | nil => rfl
  | cons v vs ih =>
      rw [List.cons_append, run, run]
      cases b.apply v <;> simp [ih]

/-- A verb at the end of a run that fails leaves the builder as it is. -/
theorem run_concat (b : MethodBuilder) (vs : List Verb) (v : Verb) :
    b.run (vs ++ [v]) =
      match (b.run vs).1.apply v with
      | .ok next => (next, (b.run vs).2 ++ [.ok next.parameters.length])
      | .error e => ((b.run vs).1, (b.run vs).2 ++ [.error e]) := by
  rw [run_append, run]
  cases (b.run vs).1.apply v <;> rfl

theorem apply_eq_ok {b next : MethodBuilder} {v : Verb} (h : b.apply v = .ok next) :
    (∃ kind name default i, v = .parameter kind name default ∧
      Identifier.ofValue? name = some i ∧
      next = { b with parameters := b.parameters ++ [⟨kind, i, default⟩] }) ∨
    (∃ value, v = .returns value ∧ next = { b with returnValue := value }) ∨
    ∃ enabled, v = .generate enabled ∧ next = { b with generateRandom := enabled.truth } := by
  cases v with
  | parameter kind name default =>
      rw [apply_parameter] at h
      cases hname : Identifier.ofValue? name with
      | none => simp [hname] at h
      | some i =>
          simp only [hname, append] at h
          split at h
          · cases h
          · split at h
            · cases h
            · cases h
              exact Or.inl ⟨kind, name, default, i, rfl, hname, rfl⟩
  | returns value => cases h; exact Or.inr (Or.inl ⟨value, rfl, rfl⟩)
  | generate enabled => cases h; exact Or.inr (Or.inr ⟨enabled, rfl, rfl⟩)

theorem apply_name_visibility {b next : MethodBuilder} {v : Verb} (h : b.apply v = .ok next) :
    next.name = b.name ∧ next.visibility = b.visibility := by
  rcases apply_eq_ok h with ⟨_, _, _, _, -, -, rfl⟩ | ⟨_, -, rfl⟩ | ⟨_, -, rfl⟩ <;>
    exact ⟨rfl, rfl⟩

/-- What every verb keeps, whether it succeeds or not, a run of verbs keeps. -/
theorem run_induction {motive : MethodBuilder → Prop} (b : MethodBuilder) (vs : List Verb)
    (start : motive b)
    (step : ∀ (c : MethodBuilder) (v : Verb) (next : MethodBuilder),
      motive c → c.apply v = .ok next → motive next) :
    motive (b.run vs).1 := by
  induction vs generalizing b with
  | nil => exact start
  | cons v vs ih =>
      rw [run]
      cases h : b.apply v with
      | error e => exact ih b start
      | ok next => exact ih next (step b v next start h)

theorem run_name_visibility (b : MethodBuilder) (vs : List Verb) :
    (b.run vs).1.name = b.name ∧ (b.run vs).1.visibility = b.visibility := by
  refine run_induction (motive := fun c => c.name = b.name ∧ c.visibility = b.visibility) b vs
    ⟨rfl, rfl⟩ ?_
  rintro c v next ⟨hname, hvisibility⟩ h
  obtain ⟨hn, hv⟩ := apply_name_visibility h
  exact ⟨hn.trans hname, hv.trans hvisibility⟩

theorem apply_wellFormed {b next : MethodBuilder} {v : Verb}
    (hb : WellFormed b.visibility b.parameters) (h : b.apply v = .ok next) :
    WellFormed next.visibility next.parameters := by
  cases v with
  | parameter kind name default =>
      have hj := judged_apply b kind name default hb
      rw [h] at hj
      cases hj with
      | accepted i hi hw => exact hw
  | returns value => cases h; exact hb
  | generate enabled => cases h; exact hb

theorem run_wellFormed (b : MethodBuilder) (vs : List Verb)
    (hb : WellFormed b.visibility b.parameters) :
    WellFormed (b.run vs).1.visibility (b.run vs).1.parameters :=
  run_induction (motive := fun c => WellFormed c.visibility c.parameters) b vs hb
    fun _ _ _ hc h => apply_wellFormed hc h

end MethodBuilder

/-! ## What verbs leave behind -/

/-- The parameter that a verb leaves behind when it comes to something. -/
def acceptedParameter? : Verb × Except Error Nat → Option Parameter
  | (.parameter kind name default, .ok _) =>
    (Identifier.ofValue? name).map fun i => ⟨kind, i, default⟩
  | _ => none

/-- The value that a verb sets to be returned. -/
def Verb.returned? : Verb → Option Value
  | .returns value => some value
  | _ => none

/-- Whether a verb asks for random values, if it is about them. -/
def Verb.generated? : Verb → Option Bool
  | .generate enabled => some enabled.truth
  | _ => none

/-- The parameters that verbs leave behind, by what each of them came to. -/
def acceptedParameters (verbs : List Verb) (steps : List (Except Error Nat)) : List Parameter :=
  (verbs.zip steps).filterMap acceptedParameter?

/-- The last value that verbs set to be returned. -/
def lastReturned (verbs : List Verb) (before : Value) : Value :=
  ((verbs.filterMap Verb.returned?).getLast?).getD before

/-- The last wish of verbs about random values. -/
def lastGenerated (verbs : List Verb) (before : Bool) : Bool :=
  ((verbs.filterMap Verb.generated?).getLast?).getD before

namespace MethodBuilder

/-- What one verb that succeeds leaves behind. -/
theorem apply_leaves {b next : MethodBuilder} {v : Verb} (n : Nat) (h : b.apply v = .ok next) :
    next.parameters = b.parameters ++ (acceptedParameter? (v, .ok n)).toList ∧
      next.returnValue = v.returned?.getD b.returnValue ∧
      next.generateRandom = v.generated?.getD b.generateRandom := by
  rcases apply_eq_ok h with ⟨kind, name, default, i, rfl, hi, rfl⟩ | ⟨value, rfl, rfl⟩ |
    ⟨enabled, rfl, rfl⟩
  · simp [acceptedParameter?, Verb.returned?, Verb.generated?, hi]
  · simp [acceptedParameter?, Verb.returned?, Verb.generated?]
  · simp [acceptedParameter?, Verb.returned?, Verb.generated?]

/-- A verb that fails is about parameters: it sets nothing else. -/
theorem apply_eq_error {b : MethodBuilder} {v : Verb} {e : Error} (h : b.apply v = .error e) :
    v.returned? = none ∧ v.generated? = none := by
  cases v with
  | parameter kind name default => exact ⟨rfl, rfl⟩
  | returns value => cases h
  | generate enabled => cases h

/-- What a run of verbs leaves behind, by what each of them came to. -/
theorem run_leaves (b : MethodBuilder) (vs : List Verb) :
    (b.run vs).1.parameters = b.parameters ++ acceptedParameters vs (b.run vs).2 ∧
      (b.run vs).1.returnValue = lastReturned vs b.returnValue ∧
      (b.run vs).1.generateRandom = lastGenerated vs b.generateRandom := by
  induction vs generalizing b with
  | nil => simp [run, acceptedParameters, lastReturned, lastGenerated]
  | cons v vs ih =>
      rw [run]
      cases h : b.apply v with
      | error e =>
          obtain ⟨hp, hr, hg⟩ := ih b
          obtain ⟨hv, hw⟩ := apply_eq_error h
          have ha : acceptedParameter? (v, .error e) = none := by cases v <;> rfl
          refine ⟨?_, ?_, ?_⟩
          · simp only [hp, acceptedParameters, List.zip_cons_cons, List.filterMap_cons, ha]
          · simp only [hr, lastReturned, List.filterMap_cons, hv]
          · simp only [hg, lastGenerated, List.filterMap_cons, hw]
      | ok next =>
          obtain ⟨hp, hr, hg⟩ := ih next
          -- the count of parameters that the step reports plays no part here
          dsimp only
          generalize next.parameters.length = n
          obtain ⟨hp', hr', hg'⟩ := apply_leaves n h
          refine ⟨?_, ?_, ?_⟩
          · rw [hp, hp', acceptedParameters, acceptedParameters, List.zip_cons_cons,
              List.filterMap_cons, List.append_assoc]
            cases acceptedParameter? (v, .ok n) <;> rfl
          · simp only [hr, hr', lastReturned, List.filterMap_cons]
            cases v.returned? with
            | none => rfl
            | some value => cases h : (vs.filterMap Verb.returned?) <;> simp [List.getLast?_cons]
          · simp only [hg, hg', lastGenerated, List.filterMap_cons]
            cases v.generated? with
            | none => rfl
            | some wish => cases h : (vs.filterMap Verb.generated?) <;> simp [List.getLast?_cons]

/-! ## From the first verb to the definition -/

/-- A builder is created for any name that is an identifier and not reserved. -/
theorem create_visibility (name : Value) (v : Visibility) :
    create name (.visibility v) =
      match Identifier.ofValue? name with
      | none => .error (.showing name (.invalidIdentifier name "method"))
      | some i => if i.isReserved then .error (.invalidIdentifier name "method")
        else .ok (empty i v) := by
  unfold create requireIdentifier
  cases hname : Identifier.ofValue? name with
  | none => rfl
  | some i =>
      -- a name that is an identifier is a text, which can be written
      simp only [Error.showing_of_text (Identifier.text?_of_ofValue? hname)]
      rfl

theorem create_name_visibility {name : Value} {v : Visibility} {b : MethodBuilder}
    (h : create name (.visibility v) = .ok b) :
    some b.name = Identifier.ofValue? name ∧ b.visibility = v := by
  rw [create_visibility] at h
  cases hname : Identifier.ofValue? name with
  | none => simp [hname] at h
  | some i =>
      simp only [hname] at h
      split at h
      · cases h
      · cases h
        exact ⟨rfl, rfl⟩

/-- A builder that is created is empty. -/
theorem create_eq_ok {name visibility : Value} {b : MethodBuilder}
    (h : create name visibility = .ok b) : ∃ i v, b = empty i v := by
  unfold create at h
  cases hname : requireIdentifier name "method" with
  | error e => simp [hname] at h
  | ok i =>
      simp only [hname] at h
      split at h
      · cases h
      · cases hv : Visibility.ofValue? visibility with
        | none => simp [hv] at h
        | some v =>
            simp only [hv, Except.ok.injEq] at h
            exact ⟨i, v, h.symm⟩

theorem create_not_reserved {name visibility : Value} {b : MethodBuilder}
    (h : create name visibility = .ok b) : b.name.isReserved = false := by
  unfold create at h
  cases hname : requireIdentifier name "method" with
  | error e => simp [hname] at h
  | ok i =>
      simp only [hname] at h
      split at h
      · cases h
      · next hreserved =>
          cases hv : Visibility.ofValue? visibility with
          | none => simp [hv] at h
          | some v =>
              simp only [hv, Except.ok.injEq] at h
              rw [← h]
              exact Bool.eq_false_iff.2 hreserved

/-- **Builders accept exactly what keeps the parameters well formed.** After any verbs, those that
fail among them, the parameters are well formed; one more parameter is accepted exactly when they
stay so, and else refused by the first rule that it breaks; a verb that fails leaves the builder as
it is; and what is frozen has the accepted parameters in order, the last return value and the last
wish for random values. -/
theorem run_accepts_wellFormed {name visibility : Value} {b : MethodBuilder}
    (h : create name visibility = .ok b) (verbs : List Verb) :
    let reached := (b.run verbs).1
    WellFormed b.visibility reached.parameters ∧
      (∀ kind name default,
        reached.Judged kind name default (reached.apply (.parameter kind name default)) ∧
        ((∃ next, reached.apply (.parameter kind name default) = .ok next) ↔
          ∃ i, Identifier.ofValue? name = some i ∧
            WellFormed b.visibility (reached.parameters ++ [⟨kind, i, default⟩]))) ∧
      (∀ verb, b.run (verbs ++ [verb]) =
        match reached.apply verb with
        | .ok next => (next, (b.run verbs).2 ++ [.ok next.parameters.length])
        | .error e => (reached, (b.run verbs).2 ++ [.error e])) ∧
      reached.freeze =
        { name := b.name.toValue
          visibility := b.visibility
          parameters := acceptedParameters verbs (b.run verbs).2
          returnValue := lastReturned verbs .null
          generateRandom := lastGenerated verbs false } := by
  intro reached
  obtain ⟨i, v, rfl⟩ := create_eq_ok h
  have hwf := run_wellFormed (empty i v) verbs (.nil v)
  obtain ⟨hname, hvisibility⟩ := run_name_visibility (empty i v) verbs
  obtain ⟨hparameters, hreturn, hgenerate⟩ := run_leaves (empty i v) verbs
  have hv : reached.visibility = v := hvisibility
  refine ⟨?_, fun kind name default => ⟨judged_apply reached kind name default hwf, ?_⟩,
    fun verb => run_concat (empty i v) verbs verb, ?_⟩
  · rw [hvisibility] at hwf
    exact hwf
  · rw [apply_parameter_ok_iff reached kind name default hwf, hv]
    rfl
  · simp only [freeze, reached, hname, hvisibility, hparameters, hreturn, hgenerate]
    rfl

/-- Of four parameters given to a builder of `greet` the two in order stay: one comes too late, and
one has the name of the receiver. -/
theorem run_accepts_wellFormed_greet :
    let greet : MethodBuilder := empty ⟨.ofText "greet", by decide +kernel⟩ .publicMember
    let verbs : List Verb :=
      [.parameter .required (.str "name") .null,
        .parameter .keyword (.symbol "format") (.str "json"),
        .parameter .optional (.str "late") .null, .returns (.int 1),
        .parameter .keyword (.str "self") .null, .generate (.bool true)]
    create (.str "greet") (.str "public") = .ok greet ∧
      WellFormed .publicMember (greet.run verbs).1.parameters ∧
      ((greet.run verbs).1.parameters.map fun p => p.name.text) = ["name", "format"] := by
  intro greet verbs
  have hcreate : create (.str "greet") (.str "public") = .ok greet := rfl
  exact ⟨hcreate, (run_accepts_wellFormed hcreate verbs).1, rfl⟩

end MethodBuilder

end StubClass
