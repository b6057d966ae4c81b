import StubClass.Signature
import StubClass.Signature.Fitting

set_option autoImplicit false

/-! # Binding arguments

A call gives values by position and by keyword. It is fitted to the slots one after another, and
what a slot takes by keyword is taken away from what is left. What was bound to which slot is not
kept: a member only wants to know that the arguments fit. -/

namespace StubClass

/-- What a call gives by position and by keyword, in their order. -/
structure Arguments where
  positional : List Value
  keywords : List (Name × Value)
deriving Repr

/-- Whether there is a value by keyword for a name. -/
def gives (keywords : List (Name × Value)) (name : Name) : Bool :=
  keywords.any fun k => name.same k.1

/-- What is left by keyword when a name is taken away. -/
def without (keywords : List (Name × Value)) (name : Name) : List (Name × Value) :=
  keywords.filter fun k => !name.same k.1

/-- A fit of arguments to slots: it knows what is left by keyword, or fails. -/
abbrev Fit := StateT (List (Name × Value)) (Except (BindFault Name))

/-- How a parameter of a way of passing takes arguments. -/
def Passing.kind : Passing → FormalKind
  | positionalOnly => .positionalOnly
  | positional => .positional
  | keywordOnly => .keywordOnly

namespace Signature

/-- Takes away what is left by keyword for a name. -/
def pull? (name : Name) : Fit (Option Value) := fun left =>
  match left.find? fun k => name.same k.1 with
  | some k => .ok (some k.2, without left name)
  | none => .ok (none, left)

/-- How slots are fitted. -/
def fitting : Fitting Fit Slot Name Value where
  isOfKind s k := return s.passing.kind == k
  goesByKeywordOnly s := return s.passing == .keywordOnly
  name s := return s.name.toName
  hasDefault s := return s.default.isSome
  isGiven name := return gives (← get) name
  pull? := pull?
  firstLeft? := return (← get).head?.map (·.1)
  keep _ _ := return ()
  keepPositional _ _ := return ()
  keepNamed _ := return ()
  isPartial := false
  refuse fault := throw fault

/-- Whether the arguments fit the signature, or the first reason why they do not. -/
def bind (s : Signature) (a : Arguments) : Except (BindFault Name) Unit :=
  (fitting.run a.positional s.slots).run' a.keywords

end Signature

end StubClass
