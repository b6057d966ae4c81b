set_option autoImplicit false

/-! # The steps of building a class

What a class will hold is begun, every definition adds its member to it, and then the class is made
of it. The steps may have effects of their own. -/

namespace StubClass

variable {m : Type → Type} [Monad m] {δ ν κ : Type}

/-- What building a class asks and does: `δ` are definitions, `ν` is what a class will hold and `κ`
are classes. -/
structure Building (m : Type → Type) (δ ν κ : Type) where
  start : m ν
  definitions : m (List δ)
  /-- Makes the member of a definition and puts it under its name. -/
  add : ν → δ → m ν
  /-- Makes the class of what it will hold, which is told how many definitions there were. -/
  finish : ν → Nat → m κ

namespace Building

/-- Adds the members of definitions one after another. -/
def addAll (b : Building m δ ν κ) : ν → List δ → m ν
  | own, [] => return own
  | own, d :: ds => do b.addAll (← b.add own d) ds

/-- Builds a class. -/
def run (b : Building m δ ν κ) : m κ := do
  let own ← b.start
  let ds ← b.definitions
  b.finish (← b.addAll own ds) ds.length

end Building

end StubClass
