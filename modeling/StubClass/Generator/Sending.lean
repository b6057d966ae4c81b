set_option autoImplicit false

/-! # The steps of a call from inside

A call from inside looks for a generated member without binding it. A member that is found has to be
at hand on what is called, and is then called without asking who calls. Where none is found, the
attribute is called like any other. The steps may have effects of their own. -/

namespace StubClass

variable {m : Type → Type} [Monad m] {μ ρ : Type}

/-- What a call from inside asks and does: `μ` are generated members and `ρ` what calls come to. -/
structure Sending (m : Type → Type) (μ ρ : Type) where
  /-- What is found under the name, if it is a generated member. -/
  member? : m (Option μ)
  bindsToClass : μ → m Bool
  isOnClass : m Bool
  /-- Refuses a member that is bound to classes, or one that is bound to their objects. -/
  refuse : (bindsToClass : Bool) → m ρ
  invoke : μ → m ρ
  callAttribute : m ρ

/-- Makes a call from inside. -/
def Sending.run (s : Sending m μ ρ) : m ρ := do
  match ← s.member? with
  | none => s.callAttribute
  | some x =>
    let bindsToClass ← s.bindsToClass x
    if bindsToClass != (← s.isOnClass) then s.refuse bindsToClass else s.invoke x

end StubClass
