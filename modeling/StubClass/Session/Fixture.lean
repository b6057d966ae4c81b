import StubClass.Options
import StubClass.Session.Step

set_option autoImplicit false

/-! # Fixtures

A test is given settings, a source, and as many generators as it asks for: each is new, and all have
the same settings and draw from the same source. -/

namespace StubClass

/-- What the generators of a test share. -/
structure Fixture where
  settings : Obj
  source : Obj

/-- What two generators of a fixture show. -/
structure FixtureTrial where
  distinct : Bool
  firstShares : Bool
  secondShares : Bool
  firstIsBuilt : Tree
  /-- A random text through the first. -/
  text : Tree
  /-- A random integer through the second, drawn after the text. -/
  integer : Tree

namespace Fixture

/-- Sets a fixture up. -/
def setUp (settings : Settings) (choice : SourceChoice) : Run Fixture := do
  let name ← plant settings.className.toValue
  let settings ← construct .settings [] [("class_name", name)]
  match choice with
  | .system => return ⟨settings, ← construct .systemSource [] []⟩
  | .seeded seed => return ⟨settings, ← construct .seededSource [← newInt seed] []⟩

/-- A new generator. -/
def newGenerator (f : Fixture) : Run Obj :=
  construct .generator [] [("config", f.settings), ("random_source", f.source)]

/-- Whether a generator has the settings of a fixture. -/
def isSharedBy (f : Fixture) (generator : Obj) : Run Bool := do
  let settings ← take generator "config"
  return (← get).identical settings f.settings

/-- The types that random values are drawn of. -/
def drawnTypes : List BuiltinType :=
  [.str, .int]

/-- Declarations of a member that returns random values, for each of the types. -/
def callbacks : List Callback :=
  drawnTypes.map fun t => .configure [.returns (.literal (.type t)), .generate none]

/-- Draws through a new member that returns a random value of a type, by its number. -/
def drawThrough (generator : Obj) (number : Nat) : Run Tree := do
  let name := Obj.word "draw"
  let _ ← callAttribute generator "public_method" [name, ← newCallback number]
  let c ← callAttribute generator "build" []
  shown (← callAttribute (← apply c []) "draw" [])

/-- Tries two generators. -/
def trial (f : Fixture) : Run FixtureTrial := do
  let a ← f.newGenerator
  let b ← f.newGenerator
  let distinct := !(← get).identical a b
  let firstShares ← f.isSharedBy a
  let secondShares ← f.isSharedBy b
  let firstIsBuilt ← shownAttribute a "is_built"
  let text ← drawThrough a 0
  return { distinct, firstShares, secondShares, firstIsBuilt, text, integer := ← drawThrough b 1 }

/-- The trial of a fixture whose system source makes given choices. -/
def tryOut (settings : Settings) (choice : SourceChoice) (choices : Nat → Nat) :
    Except FailureView FixtureTrial :=
  let scenario : Scenario := { callbacks }
  let trial : Run FixtureTrial := do (← setUp settings choice).trial
  match scenario.outside (attempt trial) { World.initial with choices } with
  | .ok t _ => t
  | .error e _ => .error ⟨e.kind, e.message, [], e.cause⟩

end Fixture

end StubClass
