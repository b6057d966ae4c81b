import StubClass.Proofs.Generator.State

set_option autoImplicit false

/-! # What declarations keep

A declaration keeps what its builder has become, and nothing when it fails; so a course of work adds
to a generator what its declarations kept, in the order in which they came to an end, each at the
end of its level (`run_generator`). One failure comes too late: a definition is kept before it is
written for the log, and one that cannot be written stays although its declaration fails
(`declareAt_keeps`). -/

namespace StubClass

namespace Generator

/-! ## Adding definitions -/

/-- The generator with more definitions at the ends of their levels. -/
def appendAll (g : Generator) (ds : List MethodDefinition) : Generator where
  settings := g.settings
  methods := g.methods ++ ds.filter fun d => !d.visibility.isClassLevel
  classMethods := g.classMethods ++ ds.filter fun d => d.visibility.isClassLevel

theorem appendAll_nil (g : Generator) : g.appendAll [] = g := by
  simp [appendAll]

theorem appendAll_append (g : Generator) (ds es : List MethodDefinition) :
    g.appendAll (ds ++ es) = (g.appendAll ds).appendAll es := by
  simp [appendAll]

theorem appendAll_singleton (g : Generator) (d : MethodDefinition) :
    g.appendAll [d] = g.append d := by
  unfold appendAll append
  cases hd : d.visibility.isClassLevel <;> simp [hd]

end Generator

/-! ## What is kept -/

/-- A declaration that keeps a definition: its builder as it was opened, the place of the builder,
and what the callback has left. -/
structure Kept where
  opened : MethodBuilder
  place : Nat
  left : GeneratorState

namespace Kept

/-- The definition that is kept: what the builder has become. -/
def definition (k : Kept) : MethodDefinition :=
  ((k.left.builders[k.place]?).getD k.opened).freeze

/-- What the declaration comes to. -/
def outcome (k : Kept) : Except Error Unit :=
  ((GeneratorState.actions.closing () k.opened k.place).run k.left).1

theorem outcome_eq (k : Kept) : k.outcome = k.definition.written.map fun _ => () := by
  rw [outcome, GeneratorState.closing_run]
  rfl

end Kept

/-- The declarations that keep definitions are noted, in the order in which they come to an end. -/
def GeneratorState.keeping : Record GeneratorState.actions Kept where
  ended _ := []
  step _ _ := []
  started _ := []
  closing _ b place s := [⟨b, place, s⟩]

namespace Course

/-- What the declarations of a course keep, those of callbacks before the one that they are in. -/
def kept (c : GeneratorCourse) (s : GeneratorState) : List Kept :=
  c.record GeneratorState.keeping s

/-- What is kept while the callback of a declaration is at work. -/
def keptInside (s : GeneratorState) (name : Value) (visibility : Visibility)
    (callback : Nat → GeneratorCourse) : List Kept :=
  recordInside GeneratorState.keeping () name visibility callback s

/-- A course adds to a generator what its declarations keep, and nothing else. -/
theorem run_generator (c : GeneratorCourse) (s : GeneratorState) :
    (c.run s).2.generator = s.generator.appendAll ((c.kept s).map Kept.definition) := by
  have htells : GeneratorState.keeping.Tells fun l old new =>
      new.generator = old.generator.appendAll (l.map Kept.definition) :=
    { nil := fun s => s.generator.appendAll_nil.symm
      append := fun hl hm => by rw [hm, hl, List.map_append, Generator.appendAll_append]
      ended := fun s => s.generator.appendAll_nil.symm
      step := fun x s =>
        (s.giveVerb_generator x.1 x.2).trans s.generator.appendAll_nil.symm
      opening := fun _ name visibility s =>
        (s.opening_generator name visibility).trans s.generator.appendAll_nil.symm
      closing := fun _ _ _ _ b place _ _ after _ _ =>
        (congrArg (fun left => left.2.generator) (after.closing_run b place)).trans
          (after.generator.appendAll_singleton _).symm }
  exact htells.run c s

/-! ## One declaration -/

section

variable (s : GeneratorState) (name : Value) (visibility : Visibility)
  (callback : Nat → GeneratorCourse)

/-- A declaration fails and adds nothing to what its callback has added, or keeps what is frozen
from its builder and comes to what writing it comes to. -/
theorem declareAt_cases :
    let declared := s.declareAt name visibility callback
    let inside := keptInside s name visibility callback
    let before := s.generator.appendAll (inside.map Kept.definition)
    (∃ e, declared.1 = .error e ∧ declared.2.generator = before) ∨
      ∃ b, declared.2.builders[s.builders.length]? = some b ∧
        some b.name = Identifier.ofValue? name ∧ b.visibility = visibility ∧
        declared.1 = b.freeze.written.map (fun _ => ()) ∧
        declared.2.generator = before.append b.freeze := by
  intro declared inside before
  have hdeclared : declared = _ := Course.declareAt_eq (A := GeneratorState.actions) ..
  have hinside : inside = keptInside s name visibility callback := rfl
  unfold keptInside recordInside at hinside
  have hopening := s.opening_generator name visibility
  rcases hopened : (GeneratorState.actions.opening () name visibility).run s with
    ⟨e | ⟨b, place⟩, opened⟩
  · rw [hopened] at hdeclared hinside hopening
    refine .inl ⟨e, congrArg Prod.fst hdeclared, ?_⟩
    rw [show declared.2 = opened from congrArg Prod.snd hdeclared, hopening]
    refine s.generator.appendAll_nil.symm.trans ?_
    exact congrArg (fun l => s.generator.appendAll (l.map Kept.definition)) hinside.symm
  · obtain ⟨hcreate, -, rfl, rfl⟩ := GeneratorState.opening_eq_ok hopened
    rw [hopened] at hdeclared hinside
    have hafter := run_generator (callback s.builders.length) (s.place b)
    -- verbs may have changed the builder meanwhile, but not its name and visibility
    obtain ⟨b', hb', hname, hvisibility⟩ := s.run_place_builder (callback s.builders.length) b
    obtain ⟨hname', hvisibility'⟩ := MethodBuilder.create_name_visibility hcreate
    simp only at hdeclared hinside
    rcases hrun : (callback s.builders.length).run (s.place b) with ⟨e | _, after⟩
    · rw [hrun] at hdeclared hafter
      refine .inl ⟨e, congrArg Prod.fst hdeclared, ?_⟩
      rw [show declared.2 = after from congrArg Prod.snd hdeclared, hafter]
      exact congrArg (fun l => s.generator.appendAll (l.map Kept.definition)) hinside.symm
    · rw [hrun] at hdeclared hafter hb'
      have hclosed : declared = _ := hdeclared.trans (after.closing_run b s.builders.length)
      simp only [hb', Option.getD_some] at hclosed
      refine .inr ⟨b', ?_, ?_, ?_, congrArg Prod.fst hclosed, ?_⟩
      · rw [hclosed]
        exact hb'
      · rw [hname, hname']
      · rw [hvisibility, hvisibility']
      · rw [hclosed]
        show after.generator.append b'.freeze = _
        rw [hafter]
        exact congrArg (fun l => (s.generator.appendAll (l.map Kept.definition)).append b'.freeze)
          hinside.symm

theorem declareAt_refuses :
    (Identifier.ofValue? name = none → s.declareAt name visibility callback =
        (.error (.showing name (.invalidIdentifier name "method")), s)) ∧
      ∀ i, Identifier.ofValue? name = some i →
        (i.isReserved = true → s.declareAt name visibility callback =
          (.error (.invalidIdentifier name "method"), s)) ∧
        (i.isReserved = false → s.generator.declares i.toName = true →
          s.declareAt name visibility callback = (.error (.duplicateMethod i.toName), s)) := by
  rw [GeneratorState.declareAt_eq, MethodBuilder.create_visibility]
  constructor
  · intro hname
    rw [hname]
  · intro i hname
    rw [hname]
    constructor
    · intro hreserved
      simp [hreserved]
    · intro hreserved hdeclared
      simp [hreserved, hdeclared, MethodBuilder.empty]

/-- **A declaration that returns has kept one definition.** It stands at the end of its level,
behind what was kept inside of the callback, and is what is frozen from the builder as the callback
left it. A declaration that fails has kept nothing itself, unless what it has kept cannot be written
and that is the failure; and inside of callbacks the same holds. A name that is no identifier, is
reserved or is declared is refused whatever the callback is, and everything stays as it is. Whatever
is done with a generator, what is there stays in its place, and on one that was new each level has
its own definitions only. -/
theorem declareAt_keeps :
    let declared := s.declareAt name visibility callback
    let inside := keptInside s name visibility callback
    let before := s.generator.appendAll (inside.map Kept.definition)
    (declared.1 = .ok () → ∃ b, declared.2.builders[s.builders.length]? = some b ∧
        some b.name = Identifier.ofValue? name ∧ b.visibility = visibility ∧
        declared.2.generator = before.append b.freeze) ∧
      (∀ e, declared.1 = .error e →
        declared.2.generator = before ∨
          ∃ b, declared.2.builders[s.builders.length]? = some b ∧
            b.freeze.written = .error e ∧ declared.2.generator = before.append b.freeze) ∧
      (∀ k ∈ inside, k.outcome = k.definition.written.map fun _ => ()) ∧
      ((Identifier.ofValue? name = none →
          declared = (.error (.showing name (.invalidIdentifier name "method")), s)) ∧
        ∀ i, Identifier.ofValue? name = some i →
          (i.isReserved = true → declared = (.error (.invalidIdentifier name "method"), s)) ∧
          (i.isReserved = false → s.generator.declares i.toName = true →
            declared = (.error (.duplicateMethod i.toName), s))) ∧
      ∀ (c : GeneratorCourse) (start : GeneratorState),
        let g := (c.run start).2.generator
        (start.generator.methods <+: g.methods ∧
          start.generator.classMethods <+: g.classMethods) ∧
        (start.generator = .empty start.generator.settings →
          (∀ d ∈ g.methods, d.visibility.isClassLevel = false) ∧
            ∀ d ∈ g.classMethods, d.visibility.isClassLevel = true) := by
  intro declared inside before
  have hcases := declareAt_cases s name visibility callback
  refine ⟨fun hok => ?_, fun e herror => ?_, fun k _ => k.outcome_eq,
    declareAt_refuses s name visibility callback, fun c start => ⟨?_, fun hnew => ?_⟩⟩
  · rcases hcases with ⟨e, herror, -⟩ | ⟨b, hb, hname, hvisibility, -, hgenerator⟩
    · exact absurd (hok.symm.trans herror) (by simp)
    · exact ⟨b, hb, hname, hvisibility, hgenerator⟩
  · rcases hcases with ⟨-, -, hgenerator⟩ | ⟨b, hb, -, -, houtcome, hgenerator⟩
    · exact .inl hgenerator
    · refine .inr ⟨b, hb, ?_, hgenerator⟩
      have hwritten := herror.symm.trans houtcome
      cases hw : b.freeze.written with
      | ok text => simp [hw, Except.map] at hwritten
      | error e' => simpa [hw, Except.map] using hwritten.symm
  · exact ⟨(start.run_extends c).methods, (start.run_extends c).classMethods⟩
  · rw [run_generator, hnew]
    simp [Generator.appendAll, Generator.empty]

end

/-- A declaration of `m` with a default of too many digits fails, but `m` is there: declared once
more it is refused as declared. -/
theorem declareAt_keeps_tooLong :
    let verbs : List Verb := [.parameter .optional (.str "a") (.int Number.tooLong)]
    let declared := GeneratorState.declareAt (.new .standard) (.str "m") .publicMember
      fun place => GeneratorCourse.giveAll place verbs
    declared.1 = .error (.ordinary .badValue (Number.tooManyDigits "")) ∧
      declared.2.generator.methods.map (fun d => d.name.text?) = [some "m"] ∧
      declared.2.declareAt (.str "m") .publicMember (fun _ => .done) =
        (.error (.duplicateMethod (.ofText "m")), declared.2) := by
  intro verbs declared
  let m : Identifier := ⟨.ofText "m", by decide +kernel⟩
  let a : Parameter := ⟨.optional, ⟨.ofText "a", by decide +kernel⟩, .int Number.tooLong⟩
  let b : MethodBuilder := ⟨m, .publicMember, [a], .null, false⟩
  let s : GeneratorState := .new .standard
  let after : GeneratorState := ⟨.empty .standard, [b]⟩
  have hrun : (GeneratorCourse.giveAll s.builders.length verbs).run
      (s.place (.empty m .publicMember)) = (.ok (), after) := rfl
  have hunwritable : ¬ b.freeze.isWritable = true := by decide +kernel
  have hwritten : b.freeze.written = .error (.ordinary .badValue (Number.tooManyDigits "")) :=
    if_neg hunwritable
  have hdeclared : declared = (b.freeze.written.map fun _ => (), after.keep b.freeze) := by
    have heq := s.declareAt_eq (.str "m") .publicMember fun place =>
      GeneratorCourse.giveAll place verbs
    rw [show MethodBuilder.create (.str "m") (.visibility .publicMember) =
      .ok (.empty m .publicMember) from rfl] at heq
    simp only at heq
    rw [if_neg (by decide), hrun] at heq
    exact heq
  rw [hdeclared, hwritten]
  refine ⟨rfl, rfl, ?_⟩
  have hrefuses :=
    (declareAt_keeps (after.keep b.freeze) (.str "m") .publicMember fun _ => .done).2.2.2.1
  exact (hrefuses.2 m rfl).2 (by decide +kernel) rfl

end Course

end StubClass
