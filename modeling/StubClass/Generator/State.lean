import StubClass.Generator
import StubClass.Generator.Course

set_option autoImplicit false

/-! # Generators that are worked with

Whoever works with a generator makes declarations and gives verbs to builders. Builders stay at hand
under their places, so a verb may be given to a builder whose callback is over or still waiting. -/

namespace StubClass

/-- A generator with the builders that were opened so far. -/
structure GeneratorState where
  generator : Generator
  builders : List MethodBuilder

namespace GeneratorState

/-- A new generator. -/
def new (settings : Settings) : GeneratorState :=
  ⟨.empty settings, []⟩

/-- The state with one more builder, whose place is behind all others. -/
def place (s : GeneratorState) (b : MethodBuilder) : GeneratorState :=
  { s with builders := s.builders ++ [b] }

/-- The state with one more definition. -/
def keep (s : GeneratorState) (d : MethodDefinition) : GeneratorState :=
  { s with generator := s.generator.append d }

/-- Keeps a definition, and then writes for the log what was declared. -/
def keepAndLog (d : MethodDefinition) : WorkOn GeneratorState Unit := do
  modify fun s => s.keep d
  discard (ExceptT.mk (pure d.written))

/-- Gives a verb to the builder at a place. -/
def giveVerb (place : Nat) (v : Verb) : WorkOn GeneratorState Unit := do
  let s ← get
  match s.builders[place]? with
  | none => throw (.ordinary .unboundName "no builder was opened there")
  | some b => do
    let next ← b.apply v
    set { s with builders := s.builders.set place next }

/-- Starts the builder of a declaration. -/
def start (name : Value) (visibility : Visibility) : WorkOn GeneratorState MethodBuilder :=
  MethodBuilder.create name (.visibility visibility)

/-- Whether the name of a builder is declared. -/
def isDeclared (b : MethodBuilder) : WorkOn GeneratorState Bool :=
  return (← get).generator.declares b.name.toName

/-- Opens a place for a builder. -/
def openFor (b : MethodBuilder) : WorkOn GeneratorState Nat := fun s =>
  (.ok s.builders.length, s.place b)

/-- What has become of a builder that a place was opened for. -/
def reached (b : MethodBuilder) (place : Nat) : WorkOn GeneratorState MethodBuilder := fun s =>
  (.ok ((s.builders[place]?).getD b), s)

/-- What can be done with a generator: the steps are verbs, given to the builders at places. -/
def actions : Actions GeneratorState where
  Step := Nat × Verb
  Answer _ := Unit
  step x := giveVerb x.1 x.2
  Site := Unit
  start _ := start
  isDeclared _ := isDeclared
  openFor _ := openFor
  reached _ := reached
  keep _ := keepAndLog

end GeneratorState

/-- A course of work with a generator. -/
abbrev GeneratorCourse := Course GeneratorState.actions

namespace GeneratorCourse

/-- To give a verb to the builder at a place. -/
def verb (place : Nat) (v : Verb) (next : Except Error Unit → GeneratorCourse) : GeneratorCourse :=
  Course.step (A := GeneratorState.actions) (place, v) next

/-- To make a declaration. -/
def declare (name : Value) (visibility : Visibility) (callback : Nat → GeneratorCourse)
    (next : Except Error Unit → GeneratorCourse) : GeneratorCourse :=
  Course.declare (A := GeneratorState.actions) () name visibility callback next

/-- Gives verbs to the builder at a place, up to the first one that fails. -/
def giveAll (place : Nat) : List Verb → GeneratorCourse
  | [] => .done
  | v :: vs => verb place v (giveAll place vs).andThen

end GeneratorCourse

/-- What a declaration comes to on a generator, and the generator then. -/
def GeneratorState.declareAt (s : GeneratorState) (name : Value) (visibility : Visibility)
    (callback : Nat → GeneratorCourse) : Except Error Unit × GeneratorState :=
  Course.declareAt (A := actions) s () name visibility callback

/-- A generator that a course of work was done with. -/
def Generator.define (settings : Settings) (c : GeneratorCourse) : Except Error Generator :=
  match c.run (.new settings) with
  | (.ok (), s) => .ok s.generator
  | (.error e, _) => .error e

end StubClass
