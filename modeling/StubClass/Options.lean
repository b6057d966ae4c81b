import StubClass.Number.Numeral
import StubClass.Random.Source
import StubClass.Settings

set_option autoImplicit false

/-! # Options of a test run

A test run may set two options: a seed for random values, and the name of the classes that are
built. An option counts as set only if its value is not empty. Settings and the choice of a source
follow from the options alone. -/

namespace StubClass

open StubClass.Random (Source)

/-- The options of a test run. -/
inductive TestOption where
  | seed
  | className
deriving Repr, DecidableEq

namespace TestOption

/-- The name of an option. -/
def name : TestOption → String
  | seed => "code_generator_seed"
  | className => "code_generator_class_name"

/-- What an option is for, in words. -/
def help : TestOption → String
  | seed => "Integer seed for deterministic random return values"
  | className => "__name__ of classes built by class_generator"

end TestOption

/-- What is announced to a test run. -/
inductive Announcement where
  /-- An option that may be set, with its value when it is not. -/
  | option (name help initial : String)
  /-- A line that is added to the value of an option. -/
  | line (name text : String)
deriving Repr

/-- What is announced, in order. -/
def announcements : List Announcement :=
  [.option TestOption.seed.name TestOption.seed.help "",
    .option TestOption.className.name TestOption.className.help "",
    .line "markers" "stub: mark test as using generated stub classes"]

/-- Where random values come from. -/
inductive SourceChoice where
  /-- From the system. -/
  | system
  /-- From a generator started from a seed. -/
  | seeded (seed : Int)
deriving Repr, DecidableEq

/-- The source of a choice. -/
def SourceChoice.source (choices : Nat → Nat) : SourceChoice → Source
  | system => .system choices
  | seeded n => ⟨.seeded n (.ofSeed n), []⟩

/-- The options that a test run sets. -/
structure Options where
  entries : List (String × Value)

namespace Options

/-- The text of an option, if it is set. -/
def get? (o : Options) (name : String) : Option String :=
  match o.entries.lookup name with
  | some v => if v.truth then some v.plain else none
  | none => none

/-- The settings of the generators of a test. -/
def settings (o : Options) : Except Error Settings :=
  Settings.create { className := (o.get? TestOption.className.name).map Value.str }

/-- Where the random values of a test come from: from the system, unless a seed is set. -/
def sourceChoice (o : Options) : Except Error SourceChoice :=
  match o.get? TestOption.seed.name with
  | none => .ok .system
  | some text =>
    match Number.readInteger? text with
    | some n => .ok (.seeded n)
    | none => .error (.seedText text)

end Options

end StubClass
