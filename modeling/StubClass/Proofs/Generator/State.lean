import Mathlib.Data.List.Infix
import StubClass.Generator.State
import StubClass.Proofs.Generator.Course
import StubClass.Proofs.Method.Builder

set_option autoImplicit false

/-! # What work does to a generator

A declaration opens a builder unless its name is not acceptable or is declared, and keeps a
definition behind its callback (`GeneratorState.declareAt_eq`). Whatever a course is, nothing that
is there goes away: definitions are added at the ends, and the builders keep their places, names and
visibilities (`GeneratorState.run_extends`). -/

namespace StubClass

namespace GeneratorState

variable (s : GeneratorState)

/-! ## Steps -/

/-- A verb changes the builder at its place alone, and nothing when it fails. -/
theorem giveVerb_run (place : Nat) (v : Verb) :
    (giveVerb place v).run s =
      match s.builders[place]? with
      | none => (.error (.ordinary .unboundName "no builder was opened there"), s)
      | some b =>
        match b.apply v with
        | .error e => (.error e, s)
        | .ok next => (.ok (), { s with builders := s.builders.set place next }) := by
  have hget : (get : WorkOn GeneratorState GeneratorState).run s = (.ok s, s) := rfl
  rw [giveVerb, run_bind, hget]
  simp only
  cases s.builders[place]? with
  | none => rfl
  | some b =>
      simp only
      cases b.apply v <;> rfl

theorem giveVerb_generator (place : Nat) (v : Verb) :
    ((giveVerb place v).run s).2.generator = s.generator := by
  rw [giveVerb_run]
  cases s.builders[place]? with
  | none => rfl
  | some b =>
      simp only
      cases b.apply v <;> rfl

theorem start_run (name : Value) (visibility : Visibility) :
    (start name visibility).run s = (MethodBuilder.create name (.visibility visibility), s) := by
  unfold start
  cases MethodBuilder.create name (.visibility visibility) <;> rfl

/-- A definition is kept before it is written for the log. -/
theorem keepAndLog_run (d : MethodDefinition) :
    (keepAndLog d).run s = (d.written.map fun _ => (), s.keep d) := by
  unfold keepAndLog
  rw [run_bind]
  show (discard (ExceptT.mk (pure d.written)) : WorkOn GeneratorState Unit).run (s.keep d) = _
  cases hwritten : d.written <;> rfl

/-! ## Declarations -/

section

variable (name : Value) (visibility : Visibility)

theorem opening_run :
    (actions.opening () name visibility).run s =
      match MethodBuilder.create name (.visibility visibility) with
      | .error e => (.error e, s)
      | .ok b =>
        if s.generator.declares b.name.toName then (.error (.duplicateMethod b.name.toName), s)
        else (.ok (b, s.builders.length), s.place b) := by
  unfold Actions.opening
  rw [run_bind, show (actions.start () name visibility).run s = _ from start_run ..]
  cases MethodBuilder.create name (.visibility visibility) with
  | error e => rfl
  | ok b =>
      have hdeclared : (actions.isDeclared () b).run s =
          (.ok (s.generator.declares b.name.toName), s) := rfl
      simp only
      rw [run_bind_ok hdeclared]
      cases s.generator.declares b.name.toName <;> rfl

theorem opening_generator :
    ((actions.opening () name visibility).run s).2.generator = s.generator := by
  rw [opening_run]
  cases MethodBuilder.create name (.visibility visibility) with
  | error e => rfl
  | ok b =>
      simp only
      split <;> rfl

/-- A builder that comes to a callback was created for a name that is not declared. -/
theorem opening_eq_ok {s opened : GeneratorState} {name : Value} {visibility : Visibility}
    {b : MethodBuilder} {place : Nat}
    (h : (actions.opening () name visibility).run s = (.ok (b, place), opened)) :
    MethodBuilder.create name (.visibility visibility) = .ok b ∧
      s.generator.declares b.name.toName = false ∧ place = s.builders.length ∧
      opened = s.place b := by
  rw [opening_run] at h
  cases hcreate : MethodBuilder.create name (.visibility visibility) with
  | error e =>
      rw [hcreate] at h
      cases h
  | ok c =>
      simp only [hcreate] at h
      cases hdeclared : s.generator.declares c.name.toName with
      | true =>
          rw [hdeclared, if_pos rfl] at h
          cases h
      | false =>
          rw [hdeclared, if_neg Bool.false_ne_true] at h
          cases h
          exact ⟨rfl, hdeclared, rfl, rfl⟩

theorem closing_run (b : MethodBuilder) (place : Nat) :
    (actions.closing () b place).run s =
      let d := ((s.builders[place]?).getD b).freeze
      (d.written.map fun _ => (), s.keep d) :=
  s.keepAndLog_run _

/-- A declaration fails before its callback when the name is not acceptable or is declared; it fails
with its callback; and else it keeps what the builder has become, even when that cannot be written
for the log. -/
theorem declareAt_eq (callback : Nat → GeneratorCourse) :
    s.declareAt name visibility callback =
      match MethodBuilder.create name (.visibility visibility) with
      | .error e => (.error e, s)
      | .ok b =>
        if s.generator.declares b.name.toName then (.error (.duplicateMethod b.name.toName), s)
        else
          match (callback s.builders.length).run (s.place b) with
          | (.error e, after) => (.error e, after)
          | (.ok (), after) =>
            let d := ((after.builders[s.builders.length]?).getD b).freeze
            (d.written.map fun _ => (), after.keep d) := by
  refine (Course.declareAt_eq (A := actions) () name visibility callback s).trans ?_
  rw [opening_run]
  cases MethodBuilder.create name (.visibility visibility) with
  | error e => rfl
  | ok b =>
      simp only
      cases s.generator.declares b.name.toName with
      | true => rfl
      | false =>
          simp only [Bool.false_eq_true, if_false, closing_run]
          rcases (callback s.builders.length).run (s.place b) with ⟨_ | _, after⟩ <;> rfl

end

/-! ## Nothing goes away -/

/-- What a generator still has of an earlier state. -/
structure Extends (new old : GeneratorState) : Prop where
  settings : new.generator.settings = old.generator.settings
  methods : old.generator.methods <+: new.generator.methods
  classMethods : old.generator.classMethods <+: new.generator.classMethods
  builders : ∀ (place : Nat) (b : MethodBuilder), old.builders[place]? = some b →
    ∃ b', new.builders[place]? = some b' ∧ b'.name = b.name ∧ b'.visibility = b.visibility

theorem Extends.refl (s : GeneratorState) : s.Extends s where
  settings := rfl
  methods := List.prefix_rfl
  classMethods := List.prefix_rfl
  builders _ b h := ⟨b, h, rfl, rfl⟩

theorem Extends.trans {a b c : GeneratorState} (hcb : c.Extends b) (hba : b.Extends a) :
    c.Extends a where
  settings := hcb.settings.trans hba.settings
  methods := hba.methods.trans hcb.methods
  classMethods := hba.classMethods.trans hcb.classMethods
  builders place old h := by
    obtain ⟨middle, hmiddle, hname, hvisibility⟩ := hba.builders place old h
    obtain ⟨new, hnew, hname', hvisibility'⟩ := hcb.builders place middle hmiddle
    exact ⟨new, hnew, hname'.trans hname, hvisibility'.trans hvisibility⟩

theorem place_extends (b : MethodBuilder) : (s.place b).Extends s where
  settings := rfl
  methods := List.prefix_rfl
  classMethods := List.prefix_rfl
  builders place old h := by
    refine ⟨old, ?_, rfl, rfl⟩
    rw [GeneratorState.place, List.getElem?_append_left (List.getElem?_eq_some_iff.1 h).1]
    exact h

theorem place_builder (b : MethodBuilder) : (s.place b).builders[s.builders.length]? = some b := by
  simp [place]

theorem keep_extends (d : MethodDefinition) : (s.keep d).Extends s := by
  unfold keep Generator.append
  split
  · exact ⟨rfl, List.prefix_rfl, List.prefix_append _ _, fun _ b h => ⟨b, h, rfl, rfl⟩⟩
  · exact ⟨rfl, List.prefix_append _ _, List.prefix_rfl, fun _ b h => ⟨b, h, rfl, rfl⟩⟩

theorem giveVerb_extends (place : Nat) (v : Verb) :
    ((giveVerb place v).run s).2.Extends s := by
  rw [giveVerb_run]
  cases hb : s.builders[place]? with
  | none => exact .refl s
  | some b =>
      simp only
      cases happly : b.apply v with
      | error e => exact .refl s
      | ok next =>
          obtain ⟨hname, hvisibility⟩ := MethodBuilder.apply_name_visibility happly
          refine ⟨rfl, List.prefix_rfl, List.prefix_rfl, fun other old h => ?_⟩
          by_cases hplace : place = other
          · subst hplace
            obtain rfl : b = old := by simpa [hb] using h
            refine ⟨next, ?_, hname, hvisibility⟩
            simp [(List.getElem?_eq_some_iff.1 h).1]
          · refine ⟨old, ?_, rfl, rfl⟩
            rw [List.getElem?_set_ne hplace]
            exact h

theorem opening_extends (name : Value) (visibility : Visibility) :
    ((actions.opening () name visibility).run s).2.Extends s := by
  rw [opening_run]
  cases MethodBuilder.create name (.visibility visibility) with
  | error e => exact .refl s
  | ok b =>
      simp only
      split
      · exact .refl s
      · exact s.place_extends b

theorem closing_extends (b : MethodBuilder) (place : Nat) :
    ((actions.closing () b place).run s).2.Extends s := by
  rw [closing_run]
  exact s.keep_extends _

/-- Whatever a course does and however it ends, nothing goes away. -/
theorem run_extends (c : GeneratorCourse) : (c.run s).2.Extends s :=
  Course.run_induct (R := fun old new => new.Extends old) .refl (fun hba hcb => hcb.trans hba)
    (fun x s => s.giveVerb_extends x.1 x.2)
    (fun _ name visibility s => s.opening_extends name visibility)
    (fun _ _ _ _ b place _ after _ _ => after.closing_extends b place) c s

/-- What a callback leaves at the place of its builder has the name and the visibility that the
builder was opened with. -/
theorem run_place_builder (c : GeneratorCourse) (b : MethodBuilder) :
    ∃ b', ((c.run (s.place b)).2.builders[s.builders.length]?) = some b' ∧
      b'.name = b.name ∧ b'.visibility = b.visibility :=
  ((s.place b).run_extends c).builders _ b (s.place_builder b)

end GeneratorState

end StubClass
