import StubClass.Proofs.Generator.Keeping

set_option autoImplicit false

/-! # When the names of a generator are distinct

A declaration looks whether its name is declared before its callback is called, and not again
behind it. So a callback may declare the name that its own declaration is about to keep, and then
the name is there twice. `names_nodup_iff` says that this is the only way: names are distinct as
long as no declaration is overtaken by its own callback. -/

namespace StubClass

/-! ## Names -/

namespace Generator

/-- The texts of all declared names, those of instance members first. -/
def names (g : Generator) : List (Option String) :=
  g.definitions.map fun d => d.name.text?

theorem declares_iff (g : Generator) (n : Name) : g.declares n = true ↔ some n.text ∈ g.names := by
  simp only [declares, names, MethodDefinition.isNamed, List.any_eq_true, List.mem_map, beq_iff_eq]

/-- Wherever a definition is kept, its name is one more. -/
theorem append_names_nodup_iff (g : Generator) (d : MethodDefinition) :
    (g.append d).names.Nodup ↔ g.names.Nodup ∧ d.name.text? ∉ g.names := by
  have hperm : (g.append d).names.Perm (d.name.text? :: g.names) := by
    unfold append names definitions
    split
    · simp only [← List.append_assoc, List.map_append, List.map_cons, List.map_nil]
      exact List.perm_append_singleton _ _
    · simp only [List.map_append, List.map_cons, List.map_nil, List.append_assoc]
      exact List.perm_middle
  rw [hperm.nodup_iff, List.nodup_cons, and_comm]

end Generator

/-! ## Overtaken declarations -/

/-- Whether a declaration keeps its definition although its callback has left its name declared. -/
def Kept.IsOvertaken (k : Kept) : Prop :=
  k.left.generator.declares k.opened.name.toName = true

namespace Course

/-- Whether a declaration is overtaken while a course of work goes on, be it one of the course
itself or one of a callback that was called. -/
def Overtakes (c : GeneratorCourse) (s : GeneratorState) : Prop :=
  ∃ k ∈ c.kept s, k.IsOvertaken

/-- From any state on names are distinct exactly if they were and no declaration is overtaken. -/
theorem run_names_nodup_iff (c : GeneratorCourse) (s : GeneratorState) :
    (c.run s).2.generator.names.Nodup ↔ s.generator.names.Nodup ∧ ¬ c.Overtakes s := by
  -- what the name of a builder is depends on what its callback leaves there
  have htells : GeneratorState.keeping.Tells fun l old new => new.Extends old ∧
      (new.generator.names.Nodup ↔ old.generator.names.Nodup ∧ ∀ k ∈ l, ¬ k.IsOvertaken) :=
    { nil := fun s => ⟨.refl s, by simp⟩
      append := fun hl hm => ⟨hm.1.trans hl.1, by
        rw [hm.2, hl.2, List.forall_mem_append, and_assoc]⟩
      ended := fun s => ⟨.refl s, by simp [GeneratorState.keeping]⟩
      step := fun x s => ⟨s.giveVerb_extends x.1 x.2, by
        show ((GeneratorState.giveVerb x.1 x.2).run s).2.generator.names.Nodup ↔ _
        rw [s.giveVerb_generator]
        simp [GeneratorState.keeping]⟩
      opening := fun _ name visibility s => ⟨s.opening_extends name visibility, by
        show ((GeneratorState.actions.opening () name visibility).run s).2.generator.names.Nodup ↔ _
        rw [s.opening_generator]
        simp [GeneratorState.keeping]⟩
      closing := fun _ name visibility s b place opened l after hopened hl =>
        ⟨after.closing_extends b place, by
          obtain ⟨-, -, rfl, rfl⟩ := GeneratorState.opening_eq_ok hopened
          obtain ⟨b', hb', hname, -⟩ := hl.1.builders _ b (s.place_builder b)
          have htext : b'.freeze.name.text? = some b.name.text := by
            rw [← hname]
            exact b'.name.text?_toValue
          have hclosing : ((GeneratorState.actions.closing () b s.builders.length).run after).2 =
              after.keep b'.freeze := by
            rw [GeneratorState.closing_run, hb']
            rfl
          show ((GeneratorState.actions.closing () b _).run after).2.generator.names.Nodup ↔ _
          rw [hclosing, GeneratorState.keep, Generator.append_names_nodup_iff, htext,
            ← Generator.declares_iff]
          simp [GeneratorState.keeping, Kept.IsOvertaken]⟩ }
  rw [(htells.run c s).2, Overtakes]
  simp only [not_exists, not_and]
  rfl

/-- **Names are distinct unless a declaration is overtaken.** Whatever is done with a new generator,
and wherever it stops, the names of its definitions are pairwise distinct exactly if no declaration
kept a definition whose name its callback had left declared. A declaration of a name that is
declared when it starts is refused before its callback, and leaves everything as it is. -/
theorem names_nodup_iff (settings : Settings) (c : GeneratorCourse) :
    ((c.run (.new settings)).2.generator.names.Nodup ↔ ¬ c.Overtakes (.new settings)) ∧
      ∀ (s : GeneratorState) (name : Value) (visibility : Visibility) (b : MethodBuilder)
        (callback : Nat → GeneratorCourse),
        MethodBuilder.create name (.visibility visibility) = .ok b →
        some b.name.text ∈ s.generator.names →
          s.declareAt name visibility callback = (.error (.duplicateMethod b.name.toName), s) := by
  refine ⟨?_, fun s name visibility b callback hcreate hname => ?_⟩
  · rw [run_names_nodup_iff]
    exact and_iff_right List.nodup_nil
  · rw [GeneratorState.declareAt_eq, hcreate]
    exact if_pos ((s.generator.declares_iff b.name.toName).2 hname)

/-- A declaration of `a` whose callback declares `a` is overtaken: the name is there twice. From
then on it is refused. -/
theorem names_nodup_iff_overtaken :
    let inner : GeneratorCourse := .declare (.str "a") .privateClass (fun _ => .done) fun _ => .done
    let c : GeneratorCourse := .declare (.str "a") .publicMember (fun _ => inner) fun _ => .done
    let s := (c.run (.new .standard)).2
    s.generator.names = [some "a", some "a"] ∧ ¬ s.generator.names.Nodup ∧
      s.declareAt (.symbol "a") .protectedMember (fun _ => .done) =
        (.error (.duplicateMethod ⟨"a", true⟩), s) := by
  intro inner c s
  have hnames : s.generator.names = [some "a", some "a"] := rfl
  have hovertakes : c.Overtakes (.new .standard) :=
    ⟨_, List.mem_append_left _ (List.mem_append_right _
      (List.mem_append_right _ (List.mem_singleton_self _))), rfl⟩
  refine ⟨hnames, fun hnodup => (names_nodup_iff .standard c).1.1 hnodup hovertakes, ?_⟩
  refine (names_nodup_iff .standard c).2 s (.symbol "a") .protectedMember _ _ rfl ?_
  rw [hnames]
  exact List.mem_cons_self

end Course

end StubClass
