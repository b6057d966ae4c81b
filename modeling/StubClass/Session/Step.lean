import StubClass.Session.Operation

set_option autoImplicit false

/-! # Steps of a session

A step is an operation, or it involves a callback: a declaration that gives its parts to a builder,
a declaration session around a new generator, or steps that are run in between. Callbacks are known
by their numbers in the scenario of the session. A step that fails leaves what it did before, and
the session goes on after it. -/

namespace StubClass

/-- What is given to a builder. -/
inductive Part where
  | parameter (kind : ParameterKind) (name : Term) (default : Option Term)
  | returns (t : Term)
  | generate (enabled : Option Term)
  /-- Stores the builder under a name. -/
  | leak (name : String)
  /-- Runs the steps of a callback in between. -/
  | interlude (callback : Nat)

/-- A step of a session. -/
inductive Step where
  | operation (op : Operation)
  /-- Declares a method by a function of a generator, and may give a callback to it. -/
  | declare (generator function : String) (name : Term) (callback : Option Nat)
  /-- Makes the declarations of the sample. -/
  | declareSample (generator : String)
  /-- Gives parts to a builder. -/
  | extend (builder : String) (parts : List Part)
  /-- Runs a callback with a new generator. -/
  | define (settings : Option SettingsTerm) (source : Option String) (callback : Nat)
  /-- Runs a callback with a new generator, and builds a class from it. -/
  | generate (result : String) (settings : Option SettingsTerm) (source : Option String)
      (callback : Nat)

/-- What is called back. -/
inductive Callback where
  /-- Gives parts to a builder. -/
  | configure (parts : List Part)
  /-- Stores a generator under a name and runs steps. -/
  | session (generator : String) (body : List Step)
  /-- Runs steps. -/
  | interlude (body : List Step)

/-! ## The sample -/

/-- The declarations of the sample that speed is measured on: the function of the generator, the
name of the method, and the parts of its builder. -/
def sample : List (String × String × List Part) :=
  let name (text : String) : Term := .literal (.str text)
  [("public_method", "greet", [.parameter .required (name "name") none,
      .parameter .optional (name "greeting") (some (name "Hello")),
      .parameter .keywordRequired (name "format") none]),
    ("private_method", "secret", [.returns (.literal (.int 42))]),
    ("protected_method", "internal", [.parameter .required (name "key") none]),
    ("public_class_method", "token", [.returns (.literal (.type .str)), .generate none])]

/-- The callbacks of the sample, which have the first numbers. -/
def sampleCallbacks : List Callback :=
  sample.map fun d => .configure d.2.2

/-- Makes the declarations of the sample. -/
def declareSampleOn (generator : Obj) : Run Unit := do
  for ((function, name, _), i) in sample.zipIdx do
    let f ← take generator function
    let _ ← apply f [.word name, ← newCallback i]

/-! ## Running -/

/-- Gives a part to a builder. -/
def Part.run (builder : Obj) : Part → Run Unit
  | .parameter kind name default => do
    let f ← take builder kind.word
    let name ← name.evaluate
    let _ ← apply f (name :: (← Term.evaluateOption default))
  | .returns t => do
    let _ ← callingAttribute builder "returns" (do return [← t.evaluate])
  | .generate enabled => do
    let _ ← callingAttribute builder "generate" (Term.evaluateOption enabled)
  | .leak name => store name builder
  | .interlude callback => do
    let _ ← callBack callback (.ofList [])

/-- Gives parts to a builder, up to the first that fails. -/
def runParts (builder : Obj) : List Part → Run Unit
  | [] => return ()
  | p :: ps => do
    p.run builder
    runParts builder ps

/-- Opens a declaration session with a callback. -/
def openSession (settings : Option SettingsTerm) (source : Option String) (callback : Nat) :
    Run Obj := do
  let f ← take (.type .generator) "define"
  let arguments ← generatorArguments settings source
  call f ⟨[← newCallback callback], arguments⟩

/-- Runs a step. -/
def Step.run : Step → Run Answer
  | .operation op => op.run
  | .declare generator function name callback => do
    let g ← objectNamed generator
    let name ← name.evaluate
    let f ← take g function
    let configure ← callback.toList.mapM newCallback
    let _ ← apply f (name :: configure)
    return .done
  | .declareSample generator => do
    declareSampleOn (← objectNamed generator)
    return .done
  | .extend builder parts => do
    let b ← objectNamed builder
    runParts b parts
    return .builder (← viewBuilder b)
  | .define settings source callback => do
    let _ ← openSession settings source callback
    return .flag true
  | .generate result settings source callback => do
    let g ← openSession settings source callback
    store result (← callAttribute g "build" [])
    return .done

/-- Runs steps up to the first that fails. -/
def runSteps : List Step → Run Unit
  | [] => return ()
  | s :: ss => do
    let _ ← s.run
    runSteps ss

/-- Does what a callback does. -/
def Callback.run (c : Callback) (a : Operands) : Run Obj := do
  match c with
  | .configure parts => runParts (a.positional.headD .none) parts
  | .session generator body => do
    store generator (a.positional.headD .none)
    runSteps body
  | .interlude body => runSteps body
  return .none

/-! ## Scenarios -/

/-- What a session is made of: its callbacks, by their numbers, and its steps. -/
structure Scenario where
  callbacks : List Callback := sampleCallbacks
  steps : List Step := []

namespace Scenario

/-- Does what the callback of a number does. -/
def doing (s : Scenario) (number : Nat) (a : Operands) : Run Obj :=
  match s.callbacks[number]? with
  | some c => c.run a
  | none => return .none

/-- Runs a part of the session outside of all steps. -/
def outside {α : Type} (s : Scenario) (r : Run α) : Bare α :=
  r (outermost s.doing)

/-- The answers of steps in a world: every step in turn, whatever became of those before it. -/
def answersOf (s : Scenario) (w : World) : List Step → List (Except FailureView Answer)
  | [] => []
  | step :: steps =>
    match s.outside (attempt step.run) w with
    | .ok answer w => answer :: s.answersOf w steps
    | .error e w => .error ⟨e.kind, e.message, [], e.cause⟩ :: s.answersOf w steps

/-- The answers of a session whose system sources make given choices. -/
def answers (s : Scenario) (choices : Nat → Nat) : List (Except FailureView Answer) :=
  s.answersOf { World.initial with choices } s.steps

end Scenario

end StubClass
