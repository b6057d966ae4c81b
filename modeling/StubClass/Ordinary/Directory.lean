import StubClass.Ordinary.Common

set_option autoImplicit false

/-! # Names within reach

What an object can be asked for: the names that it keeps itself, followed by those that its class
holds and the classes that this one is derived from. A name keeps the place where it comes first. -/

namespace StubClass

/-- Puts the names of a mapping into a dictionary. -/
def addNames (names mapping : Obj) : Run Unit := do
  if !((← get).isOf mapping .dict) then
    let _ ← take mapping "keys"
  updateFrom names mapping

mutual

/-- Puts the names that a class and all that it is derived from hold into a dictionary; `fuel`
bounds how far it is derived. -/
def addHeldNames (names : Obj) : (fuel : Nat) → Obj → Run Unit
  | 0, _ => return ()
  | fuel + 1, c => do
    match ← take? c "__dict__" with
    | some own => addNames names own
    | none => pure ()
    match ← take? c "__bases__" with
    | some bases => do addNamesOfBases names fuel bases (← lengthOf bases) 0
    | none => pure ()
termination_by fuel _ => (fuel, 0)

/-- Puts the names that so many bases hold into a dictionary, from the one of a number on. -/
def addNamesOfBases (names : Obj) (fuel : Nat) (bases : Obj) : (left index : Nat) → Run Unit
  | 0, _ => return ()
  | left + 1, index => do
    addHeldNames names fuel (← partUnder bases (← newInt index))
    addNamesOfBases names fuel bases left (index + 1)
termination_by left _ => (fuel, left + 1)

end

/-- How far a class can be derived for its names to be found. -/
def mostDerived : Nat := 1000

/-- The names of a dictionary as a list. -/
def namesIn (names : Obj) : Run Obj := do
  newList ((← get).tableOf names).keys

/-- The names within reach of an object. -/
def namesOfObject (x : Obj) : Run Obj := do
  let names ← newDict []
  match ← take? x "__dict__" with
  | some own => do if (← get).isOf own .dict then addNames names own
  | none => pure ()
  match ← take? x "__class__" with
  | some c => addHeldNames names mostDerived c
  | none => pure ()
  namesIn names

/-- The names within reach of a class. -/
def namesOfClass (c : Obj) : Run Obj := do
  let names ← newDict []
  addHeldNames names mostDerived c
  namesIn names

/-- The names that an object says that it has, in order. -/
def sortedNames (x : Obj) : Run Obj := do
  match ← callSpecial? x "__dir__" [] with
  | none => throw (.badType "object does not provide __dir__")
  | some told => do
    let names ← newList (← elementsOf told)
    sortBy names none false
    return names

/-- The names within reach of a type with arguments: those of the type, and its own. -/
def namesOfApplied (origin : Obj) : Run Obj := do
  let names ← elementsOf (← sortedNames origin)
  let w ← get
  let own := appliedAttributes.filter fun n => names.all fun x => w.text? x != some n
  newList (names ++ own.map Obj.word)

/-- The names within reach, as the type says that gives them. -/
def directoryMethod (t : BuiltinType) (function : String) (x : Obj) (a : Operands) : Run Obj := do
  takeNone function a
  match t, (← get).body x with
  | .type, _ => namesOfClass x
  | .object, _ => namesOfObject x
  | .appliedType, .applied origin _ _ => namesOfApplied origin
  | _, _ => notProvided function

end StubClass
