import StubClass.Formal

set_option autoImplicit false

/-! # Fitting a call to parameters

A call is bound to a list of parameters by asking them what they are; the questions may have effects
of their own. What is given by position goes to the parameters one after another, and the first one
that gets nothing has to be able to do without, or be given by keyword. Then every parameter that is
left is given what is there for it by keyword. What is then still given by keyword goes to the
parameter for all further keywords, and without one it does not fit. -/

namespace StubClass

variable {m : Type → Type} [Monad m] {π η ω : Type}

/-- What fitting a call asks and does: `π` are parameters, `η` their names and `ω` what is given. -/
structure Fitting (m : Type → Type) (π η ω : Type) where
  isOfKind : π → FormalKind → m Bool
  /-- Whether a parameter never takes anything by position. -/
  goesByKeywordOnly : π → m Bool
  name : π → m η
  hasDefault : π → m Bool
  /-- Whether something is given by keyword for a name. -/
  isGiven : η → m Bool
  /-- Takes away what is given by keyword for a name. -/
  pull? : η → m (Option ω)
  /-- The first name that something is still given for by keyword. -/
  firstLeft? : m (Option η)
  /-- Binds a name. -/
  keep : η → ω → m Unit
  /-- Binds a parameter to all that is left by position. -/
  keepPositional : π → List ω → m Unit
  /-- Binds a parameter to all that is left by keyword. -/
  keepNamed : π → m Unit
  /-- Whether a parameter without a default may be left out. -/
  isPartial : Bool
  refuse : {α : Type} → BindFault η → m α

namespace Fitting

/-- Gives the parameters what is given by position, and tells the parameters that are left. -/
def byPosition (f : Fitting m π η ω) : List ω → List π → m (List π)
  | [], [] => return []
  | [], p :: ps => do
    if ← f.isOfKind p .furtherPositional then return ps
    else
      let name ← f.name p
      if ← f.isGiven name then
        if ← f.isOfKind p .positionalOnly then f.refuse (.positionalOnly name)
        else return p :: ps
      else if ← f.isOfKind p .furtherKeyword then return p :: ps
      else if (← f.hasDefault p) || f.isPartial then return p :: ps
      else f.refuse (.missing name)
  | _ :: _, [] => f.refuse .tooManyPositionals
  | x :: xs, p :: ps => do
    if ← f.goesByKeywordOnly p then f.refuse .tooManyPositionals
    else if ← f.isOfKind p .furtherPositional then
      f.keepPositional p (x :: xs)
      return ps
    else
      let name ← f.name p
      if ← f.isGiven name <&&> (not <$> f.isOfKind p .positionalOnly) then
        f.refuse (.multipleValues name)
      else
        f.keep name x
        f.byPosition xs ps

/-- Gives the parameters that are left what is given by keyword, and tells the one for all further
keywords if there is one. -/
def byKeyword (f : Fitting m π η ω) (further : Option π) : List π → m (Option π)
  | [] => return further
  | p :: ps => do
    if ← f.isOfKind p .furtherKeyword then f.byKeyword (some p) ps
    else if ← f.isOfKind p .furtherPositional then f.byKeyword further ps
    else
      let name ← f.name p
      match ← f.pull? name with
      | none =>
        if ← pure !f.isPartial <&&> (not <$> f.hasDefault p) then f.refuse (.missing name)
        else f.byKeyword further ps
      | some x => do
        if ← f.isOfKind p .positionalOnly then f.refuse (.positionalOnly name)
        else
          f.keep name x
          f.byKeyword further ps

/-- Binds arguments by position to parameters, and what is given by keyword. -/
def run (f : Fitting m π η ω) (given : List ω) (parameters : List π) : m Unit := do
  let rest ← f.byPosition given parameters
  let further ← f.byKeyword none rest
  match ← f.firstLeft?, further with
  | none, _ => return ()
  | some _, some p => f.keepNamed p
  | some name, none => f.refuse (.unexpectedKeyword name)

end Fitting

end StubClass
