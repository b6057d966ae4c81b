set_option autoImplicit false

/-! # The steps of finding generated members

The generated members that are found on a class are collected along its resolution order. What
stands under a name in a nearer class hides what stands there further on, whether it is a generated
member or something else. The steps may have effects of their own. -/

namespace StubClass

variable {m : Type → Type} [Monad m] {κ ε η ν σ : Type}

/-- What finding generated members asks and does: `κ` are classes, `ε` their entries, each of a name
in `η` and what it stands for in `ν`, and `σ` are the names that were seen. -/
structure Finding (m : Type → Type) (κ ε η ν σ : Type) where
  /-- The class and those that it is derived from, in resolution order. -/
  order : m (List κ)
  entries : κ → m (List ε)
  parts : ε → m (η × ν)
  unseen : σ
  isSeen : σ → η → m Bool
  see : σ → η → m σ
  isMember : ν → m Bool
  /-- Keeps a member that is found under a name. -/
  keep : η → ν → m Unit

namespace Finding

variable (f : Finding m κ ε η ν σ)

/-- Collects the generated members among entries; `seen` are the names before them. -/
def collectEntries : (seen : σ) → List ε → m σ
  | seen, [] => return seen
  | seen, e :: es => do
    let (name, x) ← f.parts e
    if ← f.isSeen seen name then collectEntries seen es
    else
      let seen ← f.see seen name
      if ← f.isMember x then f.keep name x
      collectEntries seen es

/-- Collects the generated members along classes. -/
def collectAlong : (seen : σ) → List κ → m Unit
  | _, [] => return ()
  | seen, c :: cs => do
    let entries ← f.entries c
    collectAlong (← f.collectEntries seen entries) cs

/-- Collects the generated members that are found on a class. -/
def collect : m Unit := do
  f.collectAlong f.unseen (← f.order)

end Finding

end StubClass
