set_option autoImplicit false

/-! # The steps of a declaration

A declaration opens a builder, looks whether its name is declared, hands it to a callback, and keeps
what the builder then holds. The steps may have effects of their own; the callback in particular may
do anything, and make declarations as well. -/

namespace StubClass

variable {m : Type → Type} [Monad m] {β δ : Type}

/-- What a declaration asks and does: `β` are builders and `δ` definitions. -/
structure Declaring (m : Type → Type) (β δ : Type) where
  start : m β
  isDeclared : β → m Bool
  refuse : β → m Unit
  /-- Hands a builder to the callback, and tells what has become of it. -/
  configure : β → m β
  freeze : β → m δ
  keep : δ → m Unit

/-- Makes a declaration. -/
def Declaring.run (d : Declaring m β δ) : m Unit := do
  let b ← d.start
  if ← d.isDeclared b then d.refuse b
  else
    let b ← d.configure b
    d.keep (← d.freeze b)

end StubClass
