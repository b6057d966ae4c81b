import StubClass.Proofs.Signature.Binding

set_option autoImplicit false

/-! # What a look has to do with calls

Of what a call from inside comes to, a look can change the words of a refusal and nothing else. They
show the signature, so they are always the same where no default holds an object that may change
(`Stub.refusal_eq`). -/

namespace StubClass

/-! ## What looks like itself -/

namespace Value

theorem ite_now_eq_self {look : Look} {v : Value} (h : v.isObject = false ∨ look = .plain) :
    (if v.isObject then look.now v else v) = v := by
  rcases h with h | rfl
  · rw [h]
    exact if_neg Bool.false_ne_true
  · exact ite_self v

mutual

/-- What holds no object that may change looks like itself, and so does everything in a plain look.
-/
theorem looked_eq_self {look : Look} :
    ∀ {v : Value}, v.holdsObject = false ∨ look = .plain → v.looked look = v
  | tuple _, h => by rw [looked, lookedAll_eq_self (by rwa [holdsObject] at h)]
  | list _, h | dict _, h => by
    rw [looked]
    · exact ite_now_eq_self (by rwa [holdsObject] at h; simp)
    · simp
  | null, _ | bool _, _ | int _, _ | float _, _ | str _, _ | symbol _, _ | bytes _, _ | type _, _
  | kind _, _ | visibility _, _ => rfl

theorem lookedAll_eq_self {look : Look} :
    ∀ {xs : List Value}, holdObject xs = false ∨ look = .plain → lookedAll look xs = xs
  | [], _ => rfl
  | x :: xs, h => by
    rw [holdObject, Bool.or_eq_false_iff] at h
    rw [lookedAll, looked_eq_self (h.imp_left And.left), lookedAll_eq_self (h.imp_left And.right)]

end

end Value

theorem Verb.looked_plain (v : Verb) : v.looked .plain = v := by
  cases v <;> simp [looked, Value.looked_eq_self (.inr rfl)]

theorem MethodDefinition.looked_plain (d : MethodDefinition) : d.looked .plain = d := by
  have hparameters : d.parameters.map (Parameter.looked .plain) = d.parameters.map id :=
    List.map_congr_left fun p _ => by
      simp [Parameter.looked, Value.looked_eq_self (.inr rfl)]
  rw [looked, hparameters, List.map_id]

namespace Signature

theorem looked_eq_self {look : Look} {s : Signature}
    (h : ∀ slot ∈ s.slots, ∀ v, slot.default = some v → v.looked look = v) :
    s.looked look = s := by
  have hslots : s.slots.map (Slot.looked look) = s.slots.map id :=
    List.map_congr_left fun slot hslot => by
      obtain ⟨passing, name, default⟩ := slot
      cases default with
      | none => rfl
      | some v => simp [Slot.looked, h _ hslot v rfl]
  rw [looked, hslots, List.map_id]

end Signature

/-- Only a kind with a default has one where signatures are formed. -/
theorem Parameter.hasDefault_of_effectiveKind (p : Parameter)
    (h : p.effectiveKind.hasDefault = true) : p.kind.hasDefault = true := by
  unfold effectiveKind at h
  split at h
  · cases hkind : p.kind <;>
      simp [hkind, ParameterKind.withoutDefault, ParameterKind.hasDefault] at h
  · exact h

/-! ## Refusals -/

namespace Stub

variable {d : MethodDefinition} {s : Stub} (h : create d = .ok s)
include h

/-- The defaults that a member applies can be written as they are known. -/
theorem signature_isWritable : s.signature.isWritable = true := by
  obtain ⟨⟨-, hwritable, -⟩, rfl⟩ := (create_eq_ok_iff d s).1 h
  rw [Signature.isWritable, List.all_map, List.all_eq_true]
  intro p hp
  have hwritten : (!p.kind.hasDefault || p.default.isWritable) = true :=
    List.all_eq_true.1 hwritable p hp
  show (if p.effectiveKind.hasDefault then some p.default else none).all Value.isWritable = true
  split
  · next hdefault =>
      rw [p.hasDefault_of_effectiveKind hdefault] at hwritten
      exact hwritten
  · rfl

/-- Where no default holds an object that may change, or everything looks as it is known, a refusal
has the words that it always has. -/
theorem refusal_eq {look : Look}
    (hlook : (∀ p ∈ d.parameters, p.default.holdsObject = false) ∨ look = .plain)
    (fault : BindFault Name) : s.refusal look fault = .arity d.name s.signature.text fault := by
  have hwritable := signature_isWritable h
  obtain ⟨-, rfl⟩ := (create_eq_ok_iff d s).1 h
  have hlooked : (Signature.looked look ⟨d.parameters.map Parameter.slot⟩) =
      ⟨d.parameters.map Parameter.slot⟩ := by
    refine Signature.looked_eq_self fun slot hslot v hv => Value.looked_eq_self ?_
    obtain ⟨p, hp, rfl⟩ := List.mem_map.1 hslot
    refine hlook.imp_left fun hparameters => ?_
    have hdefault : (if p.effectiveKind.hasDefault then some p.default else none) = some v := hv
    split at hdefault
    · cases hdefault
      exact hparameters p hp
    · cases hdefault
  rw [refusal, hlooked, Signature.written, if_pos hwritable]

end Stub

end StubClass
