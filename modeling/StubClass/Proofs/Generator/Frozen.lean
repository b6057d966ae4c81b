import StubClass.Proofs.Generator.State

set_option autoImplicit false

/-! # What generators hold

A generator that was worked with from the start holds nothing but what was frozen from builders, as
a declaration keeps nothing else, and builders change by verbs only (`run_isSound`). So the names of
its definitions are not reserved and their parameters are well formed. -/

namespace StubClass

/-- Whether a builder is one that was created and given some verbs. -/
def MethodBuilder.IsBuilt (b : MethodBuilder) : Prop :=
  ∃ name visibility start verbs, create name visibility = .ok start ∧ b = (start.run verbs).1

/-- Whether a definition was frozen from a builder. -/
def MethodDefinition.IsFrozen (d : MethodDefinition) : Prop :=
  ∃ b : MethodBuilder, b.IsBuilt ∧ d = b.freeze

theorem MethodBuilder.IsBuilt.apply {b next : MethodBuilder} {v : Verb} (hb : b.IsBuilt)
    (h : b.apply v = .ok next) : next.IsBuilt := by
  obtain ⟨name, visibility, start, verbs, hcreate, rfl⟩ := hb
  refine ⟨name, visibility, start, verbs ++ [v], hcreate, ?_⟩
  rw [run_concat, h]

/-- The name of a frozen definition is an identifier that is not reserved, and its parameters are
well formed. -/
theorem MethodDefinition.IsFrozen.wellFormed {d : MethodDefinition} (hd : d.IsFrozen) :
    (∃ i : Identifier, d.name = i.toValue ∧ i.isReserved = false) ∧
      WellFormed d.visibility d.parameters := by
  obtain ⟨b, ⟨name, visibility, start, verbs, hcreate, rfl⟩, rfl⟩ := hd
  have hreserved := MethodBuilder.create_not_reserved hcreate
  obtain ⟨i, v, rfl⟩ := MethodBuilder.create_eq_ok hcreate
  obtain ⟨hname, -⟩ := MethodBuilder.run_name_visibility (.empty i v) verbs
  refine ⟨⟨_, rfl, ?_⟩, MethodBuilder.run_wellFormed (.empty i v) verbs (.nil v)⟩
  rw [hname]
  exact hreserved

namespace GeneratorState

/-- Whether there is nothing but builders that were built and definitions that were frozen. -/
structure IsSound (s : GeneratorState) : Prop where
  builders : ∀ b ∈ s.builders, b.IsBuilt
  definitions : ∀ d ∈ s.generator.definitions, d.IsFrozen

theorem IsSound.new (settings : Settings) : IsSound (.new settings) where
  builders := by simp [GeneratorState.new]
  definitions := by simp [GeneratorState.new, Generator.empty, Generator.definitions]

variable {s : GeneratorState}

theorem IsSound.place (h : s.IsSound) {b : MethodBuilder} (hb : b.IsBuilt) :
    (s.place b).IsSound where
  builders := by simpa [GeneratorState.place, or_imp, forall_and] using ⟨h.builders, hb⟩
  definitions := h.definitions

theorem IsSound.keep (h : s.IsSound) {d : MethodDefinition} (hd : d.IsFrozen) :
    (s.keep d).IsSound where
  builders := h.builders
  definitions := by
    have hall : ∀ e ∈ (s.keep d).generator.definitions,
        e ∈ s.generator.definitions ∨ e = d := by
      unfold GeneratorState.keep Generator.append Generator.definitions
      split <;> simp only [List.mem_append, List.mem_singleton] <;> tauto
    intro e he
    rcases hall e he with he | rfl
    · exact h.definitions e he
    · exact hd

theorem IsSound.giveVerb (h : s.IsSound) (place : Nat) (v : Verb) :
    ((GeneratorState.giveVerb place v).run s).2.IsSound := by
  rw [giveVerb_run]
  cases hb : s.builders[place]? with
  | none => exact h
  | some b =>
      simp only
      cases happly : b.apply v with
      | error e => exact h
      | ok next =>
          refine ⟨fun c hc => ?_, h.definitions⟩
          rcases List.mem_or_eq_of_mem_set hc with hc | rfl
          · exact h.builders c hc
          · exact (h.builders b (List.mem_of_getElem? hb)).apply happly

theorem IsSound.opening (h : s.IsSound) (name : Value) (visibility : Visibility) :
    ((actions.opening () name visibility).run s).2.IsSound := by
  rw [opening_run]
  cases hcreate : MethodBuilder.create name (.visibility visibility) with
  | error e => exact h
  | ok b =>
      simp only
      split
      · exact h
      · exact h.place ⟨name, _, b, [], hcreate, rfl⟩

/-- What is kept is frozen from the builder at the place, or from the one that was opened. -/
theorem IsSound.closing (h : s.IsSound) {b : MethodBuilder} (hb : b.IsBuilt) (place : Nat) :
    ((actions.closing () b place).run s).2.IsSound := by
  rw [closing_run]
  refine h.keep ⟨(s.builders[place]?).getD b, ?_, rfl⟩
  cases hplace : s.builders[place]? with
  | none => exact hb
  | some c => exact h.builders c (List.mem_of_getElem? hplace)

/-- Whatever a course does and however it ends, a generator stays sound. -/
theorem run_isSound (c : GeneratorCourse) (h : s.IsSound) : (c.run s).2.IsSound :=
  Course.run_induct (R := fun old new => old.IsSound → new.IsSound) (fun _ => id)
    (fun hba hcb => hcb ∘ hba) (fun x _ hs => hs.giveVerb x.1 x.2)
    (fun _ name visibility _ hs => hs.opening name visibility)
    (fun _ name _ _ b place _ _ hopened _ hs =>
      hs.closing ⟨name, _, b, [], (opening_eq_ok hopened).1, rfl⟩ place) c s h

end GeneratorState

end StubClass
