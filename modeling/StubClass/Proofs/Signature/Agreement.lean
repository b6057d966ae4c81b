import StubClass.Proofs.Method.Builder
import StubClass.Proofs.Signature.Forming

set_option autoImplicit false

/-! # Where builders and signatures agree

Parameters are checked twice, in ways that know nothing of each other: a builder compares each new
one with the last one, and a signature is formed in one scan. Both checks come to well-formedness of
the whole list, `applyAll_verbs_eq_ok_iff` for the verbs and `fullSignature_eq_ok_iff` for the
signature, but not of the same list. A builder takes every default for one, and in a signature one
value stands for none. So they agree on parameters without that value, and on all others once it is
left out (`applyAll_verbs_iff_fullSignature`). -/

namespace StubClass

namespace Parameter

/-- The parameter with its default if that is applied, and without one otherwise. -/
def applied (p : Parameter) : Parameter :=
  { p with default := if p.kind.hasDefault then p.default else .null }

/-- The verb that gives the parameter to a builder. -/
def verb (p : Parameter) : Verb :=
  .parameter p.kind p.name.toValue p.applied.default

end Parameter

/-- Of the parameters only kinds and names play a part in well-formedness. -/
theorem wellFormed_map_iff (v : Visibility) (ps : List Parameter) {f : Parameter → Parameter}
    (hkind : ∀ p, (f p).kind = p.kind) (hname : ∀ p, (f p).name = p.name) :
    WellFormed v (ps.map f) ↔ WellFormed v ps := by
  have hnames : ((ps.map f).map fun p => p.name.text) = ps.map fun p => p.name.text := by
    simp only [List.map_map, Function.comp_def, hname]
  have horder : InCallOrder (ps.map f) ↔ InCallOrder ps := by
    have hbehind : (fun p q => (f p).NotBehind (f q)) = Parameter.NotBehind := by
      funext p q
      rw [Parameter.NotBehind, hkind, hkind, Parameter.NotBehind]
    rw [inCallOrder_iff_pairwise, inCallOrder_iff_pairwise, List.pairwise_map, hbehind]
  constructor
  · rintro ⟨-, distinct, notReceiver, inOrder⟩
    refine ⟨fun p _ => p.name.valid, hnames ▸ distinct, fun p hp => ?_, horder.1 inOrder⟩
    rw [← hname p]
    exact notReceiver (f p) (List.mem_map_of_mem hp)
  · rintro ⟨-, distinct, notReceiver, inOrder⟩
    refine ⟨fun p _ => p.name.valid, hnames.symm ▸ distinct, fun p hp => ?_, horder.2 inOrder⟩
    obtain ⟨q, hq, rfl⟩ := List.mem_map.1 hp
    rw [hname q]
    exact notReceiver q hq

namespace MethodBuilder

/-! ## Verbs for parameters -/

/-- A builder takes a parameter exactly when the list stays well formed with it. -/
theorem apply_verb_eq_ok_iff {b : MethodBuilder} (hb : WellFormed b.visibility b.parameters)
    (p : Parameter) (next : MethodBuilder) :
    b.apply p.verb = .ok next ↔
      WellFormed b.visibility (b.parameters ++ [p.applied]) ∧
        next = { b with parameters := b.parameters ++ [p.applied] } := by
  have happly := apply_parameter_ok_iff b p.kind p.name.toValue p.applied.default hb
  simp only [Identifier.ofValue?_toValue, Option.some.injEq, exists_eq_left'] at happly
  have hreached : ∀ next, b.apply p.verb = .ok next →
      next = { b with parameters := b.parameters ++ [p.applied] } := by
    intro next h
    obtain ⟨kind, name, default, i, hverb, hi, rfl⟩ | ⟨value, hverb, -⟩ | ⟨enabled, hverb, -⟩ :=
      apply_eq_ok h
    · cases hverb
      obtain rfl : p.name = i := by simpa [Identifier.ofValue?_toValue] using hi
      rfl
    · cases hverb
    · cases hverb
  constructor
  · exact fun h => ⟨happly.1 ⟨next, h⟩, hreached next h⟩
  · rintro ⟨hw, rfl⟩
    obtain ⟨next, hnext⟩ := happly.2 hw
    exact hreached next hnext ▸ hnext

theorem applyAll_verbs_eq_ok_iff {b : MethodBuilder} (hb : WellFormed b.visibility b.parameters)
    (ps : List Parameter) (reached : MethodBuilder) :
    b.applyAll (ps.map Parameter.verb) = .ok reached ↔
      WellFormed b.visibility (b.parameters ++ ps.map Parameter.applied) ∧
        reached = { b with parameters := b.parameters ++ ps.map Parameter.applied } := by
  induction ps generalizing b with
  | nil => simp [applyAll, hb, eq_comm]
  | cons p ps ih =>
      rw [List.map_cons, List.map_cons, applyAll, ← List.singleton_append, ← List.append_assoc]
      have hstep := apply_verb_eq_ok_iff hb p
      cases happly : b.apply p.verb with
      | error e =>
          refine iff_of_false (by simp) ?_
          rintro ⟨hw, -⟩
          simpa [happly] using (hstep _).2 ⟨hw.of_append, rfl⟩
      | ok next =>
          obtain ⟨hw, rfl⟩ := (hstep next).1 happly
          exact ih hw

/-- The verbs of parameters go through exactly when the parameters are well formed. -/
theorem applyAll_verbs_iff_wellFormed {name visibility : Value} {b : MethodBuilder}
    (h : create name visibility = .ok b) (ps : List Parameter) :
    (∃ reached, b.applyAll (ps.map Parameter.verb) = .ok reached) ↔
      WellFormed b.visibility ps := by
  obtain ⟨i, v, rfl⟩ := create_eq_ok h
  have happlied : WellFormed v (ps.map Parameter.applied) ↔ WellFormed v ps :=
    wellFormed_map_iff v ps (fun _ => rfl) (fun _ => rfl)
  have hnil : WellFormed (empty i v).visibility (empty i v).parameters := .nil v
  simp only [applyAll_verbs_eq_ok_iff hnil, exists_and_left, exists_eq, and_true]
  exact happlied

/-! ## Verbs and signatures -/

/-- **Verbs go through when a signature can be formed, up to one value.** Given to a new builder,
parameters go through exactly when they form a signature with the receiver, as long as no applied
default is the value that stands for none; and any parameters form one exactly when they go through
as they are in a signature, without that value. With the signature there is the one without the
receiver, which is the rest of it; and when only the latter can be formed, a parameter has the name
of the receiver. -/
theorem applyAll_verbs_iff_fullSignature {name visibility : Value} {b : MethodBuilder}
    (h : create name visibility = .ok b) (ps : List Parameter) :
    let d : MethodDefinition := { b.freeze with parameters := ps }
    ((∀ p ∈ ps, p.kind.hasDefault = true → p.default.isNoDefault = false) →
        ((∃ reached, b.applyAll (ps.map Parameter.verb) = .ok reached) ↔
          ∃ full, d.fullSignature = .ok full)) ∧
      ((∃ reached, b.applyAll ((ps.map Parameter.effective).map Parameter.verb) = .ok reached) ↔
        ∃ full, d.fullSignature = .ok full) ∧
      (∀ full, d.fullSignature = .ok full →
        ∃ s, d.signature = .ok s ∧ full.slots = b.visibility.receiverSlot :: s.slots) ∧
      (∀ s, d.signature = .ok s → (¬ ∃ full, d.fullSignature = .ok full) →
        ∃ p ∈ ps, p.name.text = b.visibility.receiver.text) := by
  intro d
  have hfull : (∃ full, d.fullSignature = .ok full) ↔
      WellFormed b.visibility (ps.map Parameter.effective) := by
    simp only [d.fullSignature_eq_ok_iff, exists_and_left, exists_eq, and_true]
    rfl
  refine ⟨fun hdefaults => ?_, ?_, fun full hok => ?_, fun s hok hno => ?_⟩
  · rw [hfull, Parameter.map_effective_eq_self hdefaults, applyAll_verbs_iff_wellFormed h]
  · rw [hfull, applyAll_verbs_iff_wellFormed h]
  · obtain ⟨hw, rfl⟩ := (d.fullSignature_eq_ok_iff full).1 hok
    obtain ⟨hinOrder, hdistinct, -⟩ := (wellFormed_effective_iff _ _).1 hw
    exact ⟨_, (d.signature_eq_ok_iff _).2 ⟨⟨hinOrder, hdistinct⟩, rfl⟩, rfl⟩
  · obtain ⟨⟨hinOrder, hdistinct⟩, -⟩ := (d.signature_eq_ok_iff s).1 hok
    by_contra hnone
    refine hno (hfull.2 ((wellFormed_effective_iff _ _).2 ⟨hinOrder, hdistinct, ?_⟩))
    exact fun p hp heq => hnone ⟨p, hp, heq⟩

/-- Two optional parameters form a signature when their defaults are plain. When the default of the
second one stands for none, a builder takes them all the same and no signature can be formed. -/
theorem applyAll_verbs_iff_fullSignature_optional :
    let pad : MethodBuilder := empty ⟨.ofText "pad", by decide +kernel⟩ .publicMember
    let two (last : Value) : List Parameter :=
      [⟨.optional, ⟨.ofText "width", by decide +kernel⟩, .int 1⟩,
        ⟨.optional, ⟨.ofText "fill", by decide +kernel⟩, last⟩]
    create (.str "pad") (.str "public") = .ok pad ∧
      (∃ full, { pad.freeze with parameters := two .null }.fullSignature = .ok full) ∧
      (∃ reached, pad.applyAll ((two (.type .noDefault)).map Parameter.verb) = .ok reached) ∧
      { pad.freeze with parameters := two (.type .noDefault) }.fullSignature =
        .error .requiredAfterDefault := by
  intro pad two
  have hcreate : create (.str "pad") (.str "public") = .ok pad := rfl
  refine ⟨hcreate, ?_, ⟨_, rfl⟩, rfl⟩
  refine ((applyAll_verbs_iff_fullSignature hcreate (two .null)).1 ?_).1 ⟨_, rfl⟩
  intro p hp hdefault
  rcases List.mem_cons.1 hp with rfl | hp
  · rfl
  · obtain rfl := List.mem_singleton.1 hp
    rfl

end MethodBuilder

end StubClass
