import StubClass.Class.Registry
import StubClass.Generator.State
import StubClass.Method.Look

set_option autoImplicit false

/-! # Generators and classes side by side

There may be several generators, the members and classes that were built, and one source that all
members share. Builders may be opened and frozen apart from any declaration, classes may be built of
any definitions at hand, members may be called, and the objects that definitions mention may be
changed in place. All of this may happen in any order, and in the callbacks of declarations too.
Whatever needs a text is done with the objects as they look at that time. -/

namespace StubClass

open StubClass.Random (Source)

/-- Builds a class of the definitions of a generator. -/
def Generator.build (g : Generator) (r : Registry) : Except Error Registry :=
  r.build g.settings g.definitions

/-- Builds a class of definitions, with the texts that they have by a look. -/
def Registry.buildNow (r : Registry) (look : Look) (settings : Settings)
    (ds : List MethodDefinition) : Except Error Registry := do
  let _ ← r.build settings (ds.map (MethodDefinition.looked look))
  r.build settings ds

/-- Generators, classes and their members, a source, what objects look like, and the definitions
that were frozen apart from any declaration. -/
structure SystemState where
  generators : List GeneratorState
  registry : Registry
  source : Source
  look : Look
  frozen : List MethodDefinition

namespace SystemState

/-- A source and nothing else. -/
def ofSource (source : Source) (look : Look) : SystemState :=
  ⟨[], .empty, source, look, []⟩

/-- The error of asking for something at a place where nothing is. -/
def nothingThere (what : String) : Error :=
  .ordinary .unboundName ("no " ++ what ++ " is there")

/-- Does something with the generator at a place. -/
def atGenerator {α : Type} (i : Nat) (x : WorkOn GeneratorState α) :
    WorkOn SystemState α := fun p =>
  match p.generators[i]? with
  | none => (.error (nothingThere "generator"), p)
  | some g =>
    let (answer, g) := x.run g
    (answer, { p with generators := p.generators.set i g })

/-- Opens a new generator. -/
def openGenerator (settings : Settings) : WorkOn SystemState Unit :=
  modify fun p => { p with generators := p.generators ++ [.new settings] }

/-- Opens a builder apart from any declaration, and tells its place. -/
def openBuilder (i : Nat) (name visibility : Value) : WorkOn SystemState Nat := do
  let p ← get
  let b ← MethodBuilder.create (name.looked p.look) (visibility.looked p.look)
  atGenerator i (GeneratorState.openFor b)

/-- Gives a verb to a builder. -/
def giveVerb (i place : Nat) (v : Verb) : WorkOn SystemState Unit := do
  let p ← get
  atGenerator i (GeneratorState.giveVerb place (v.looked p.look))

/-- Freezes a builder apart from any declaration. -/
def freeze (i place : Nat) : WorkOn SystemState MethodDefinition := fun p =>
  match p.generators[i]?.bind fun g => g.builders[place]? with
  | none => (.error (nothingThere "builder"), p)
  | some b => (.ok b.freeze, { p with frozen := p.frozen ++ [b.freeze] })

/-- Builds a class of definitions within settings. -/
def buildOf (settings : Settings) (ds : List MethodDefinition) : WorkOn SystemState Unit := fun p =>
  match p.registry.buildNow p.look settings ds with
  | .error e => (.error e, p)
  | .ok registry => (.ok (), { p with registry })

/-- Builds a class of the definitions of the generator at a place. -/
def build (i : Nat) : WorkOn SystemState Unit := fun p =>
  match p.generators[i]? with
  | none => (.error (nothingThere "generator"), p)
  | some g => buildOf g.generator.settings g.generator.definitions p

/-- Calls the member at a place. -/
def call (place : Nat) (way : Way) (a : Arguments) : WorkOn SystemState Value := fun p =>
  match p.registry.members[place]? with
  | none => (.error (nothingThere "member"), p)
  | some x =>
    let (answer, source) := x.perform p.look way a p.source
    (answer, { p with source })

/-- Changes objects in place, so that they have another look. -/
def change (look : Look) : WorkOn SystemState Unit :=
  modify fun p => { p with look }

/-- Starts the builder of a declaration. -/
def start (i : Nat) (name : Value) (visibility : Visibility) :
    WorkOn SystemState MethodBuilder := do
  let p ← get
  atGenerator i (GeneratorState.start (name.looked p.look) visibility)

/-- Keeps a definition, and then writes for the log what was declared. -/
def keepAndLog (i : Nat) (d : MethodDefinition) : WorkOn SystemState Unit := do
  atGenerator i (modify fun g => g.keep d)
  let p ← get
  discard (ExceptT.mk (pure (d.looked p.look).written))

end SystemState

/-- A step besides declarations. Generators, their builders and members are known by their places.
-/
inductive SystemStep where
  | openGenerator (settings : Settings)
  | openBuilder (i : Nat) (name visibility : Value)
  | giveVerb (i place : Nat) (v : Verb)
  | freeze (i place : Nat)
  | build (i : Nat)
  | buildOf (settings : Settings) (ds : List MethodDefinition)
  | call (member : Nat) (way : Way) (a : Arguments)
  | change (look : Look)

namespace SystemStep

/-- What a step answers. -/
def Answer : SystemStep → Type
  | openBuilder .. => Nat
  | freeze .. => MethodDefinition
  | call .. => Value
  | _ => Unit

/-- Does a step. -/
def perform : (x : SystemStep) → WorkOn SystemState x.Answer
  | openGenerator settings => SystemState.openGenerator settings
  | openBuilder i name visibility => SystemState.openBuilder i name visibility
  | giveVerb i place v => SystemState.giveVerb i place v
  | freeze i place => SystemState.freeze i place
  | build i => SystemState.build i
  | buildOf settings ds => SystemState.buildOf settings ds
  | call member way a => SystemState.call member way a
  | change look => SystemState.change look

end SystemStep

/-- What can be done with generators and classes: declarations are made on the generators at
places. -/
def SystemState.actions : Actions SystemState where
  Step := SystemStep
  Answer := SystemStep.Answer
  step := SystemStep.perform
  Site := Nat
  start := start
  isDeclared i b := atGenerator i (GeneratorState.isDeclared b)
  openFor i b := atGenerator i (GeneratorState.openFor b)
  reached i b place := atGenerator i (GeneratorState.reached b place)
  keep := keepAndLog

/-- A course of work with generators and classes. -/
abbrev SystemCourse := Course SystemState.actions

end StubClass
