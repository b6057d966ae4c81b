import StubClass.Generator.Declaring
import StubClass.Method.Builder

set_option autoImplicit false

/-! # Courses of work

Work on a state is done step by step, and goes on as it pleases with what came of each step. A
course of work says what is done first, and for everything that may come of it how the work goes on.
Besides the steps that a kind of state has there are declarations, whose callbacks are courses too.
A callback gets the place of its builder. -/

namespace StubClass

/-- Work on a state, which may fail and leaves the state as it is then. -/
abbrev WorkOn (σ : Type) := ExceptT Error (StateM σ)

/-- Work that tells what came of it, and does not fail. -/
def WorkOn.told {σ α : Type} (x : WorkOn σ α) : WorkOn σ (Except Error α) :=
  ExceptT.lift (ExceptT.run x)

/-- What can be done to a state: steps, each with what it answers, and what declarations are made
of. -/
structure Actions (σ : Type) where
  Step : Type
  Answer : Step → Type
  step : (x : Step) → WorkOn σ (Answer x)
  /-- Where a declaration is made. -/
  Site : Type
  start : Site → Value → Visibility → WorkOn σ MethodBuilder
  isDeclared : Site → MethodBuilder → WorkOn σ Bool
  /-- Opens a place for a builder. -/
  openFor : Site → MethodBuilder → WorkOn σ Nat
  /-- What has become of a builder that a place was opened for. -/
  reached : Site → MethodBuilder → Nat → WorkOn σ MethodBuilder
  keep : Site → MethodDefinition → WorkOn σ Unit

/-- How a declaration goes: a place is opened for the builder, and the callback gets the place. -/
def Actions.declaring {σ : Type} (A : Actions σ) (site : A.Site) (name : Value)
    (visibility : Visibility) (callback : Nat → WorkOn σ Unit) :
    Declaring (WorkOn σ) MethodBuilder MethodDefinition where
  start := A.start site name visibility
  isDeclared := A.isDeclared site
  refuse b := throw (.duplicateMethod b.name.toName)
  configure b := do
    let place ← A.openFor site b
    callback place
    A.reached site b place
  freeze b := return b.freeze
  keep := A.keep site

/-- A course of work on a state. -/
inductive Course {σ : Type} (A : Actions σ) where
  | done
  | fail (e : Error)
  /-- To look at everything that is there. -/
  | look (next : σ → Course A)
  | step (x : A.Step) (next : Except Error (A.Answer x) → Course A)
  /-- To make a declaration. -/
  | declare (site : A.Site) (name : Value) (visibility : Visibility) (callback : Nat → Course A)
    (next : Except Error Unit → Course A)

namespace Course

variable {σ : Type} {A : Actions σ}

/-- Does what a course says. -/
def perform : Course A → WorkOn σ Unit
  | done => return ()
  | fail e => throw e
  | look next => do (next (← get)).perform
  | step x next => do (next (← (A.step x).told)).perform
  | declare site name visibility callback next => do
    let declaring := A.declaring site name visibility fun place => (callback place).perform
    (next (← declaring.run.told)).perform

/-- What a course comes to on a state, and the state then. -/
def run (c : Course A) (s : σ) : Except Error Unit × σ :=
  c.perform.run s

/-- What a declaration comes to on a state, and the state then. -/
def declareAt (s : σ) (site : A.Site) (name : Value) (visibility : Visibility)
    (callback : Nat → Course A) : Except Error Unit × σ :=
  (A.declaring site name visibility fun place => (callback place).perform).run.run s

/-- Goes on with a course unless something failed. -/
def andThen {α : Type} (c : Course A) : Except Error α → Course A
  | .ok _ => c
  | .error e => fail e

end Course

end StubClass
