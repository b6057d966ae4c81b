import StubClass.Class.Reach
import StubClass.Library.Given

set_option autoImplicit false

/-! # Access to members as objects

A member that is not public may be called from the code of certain classes: its owner, and for a
protected one also every class derived from the owner. Classes are asked for those derived from
them, and for what they hold; whatever answers these questions is taken for a class. -/

namespace StubClass

/-- How many objects a chain of them can have. -/
def chainFuel : Nat := 1000

/-- What an object keeps under names, as a dictionary. -/
def keptBy (x : Obj) : Run Obj := do
  match ← take? x "__dict__" with
  | some d => return d
  | none => throw (.badType "vars() argument must have __dict__ attribute")

/-- The layer that an object is. -/
def layerOf? (x : Obj) : Run (Option (Layer Obj)) := do
  if ← isA x .classMethod <||> isA x .staticMethod then
    return some (.binder (← take x "__func__"))
  else if ← isA x .cachedProperty <||> isA x .partialMethod then
    return some (.prepared (← take x "func"))
  else if ← isA x .property then do
    let accessor (n : String) : Run (Option Obj) := do
      return (some (← take x n)).filter (· != .none)
    let getter ← accessor "fget"
    let setter ← accessor "fset"
    return some (.property getter setter (← accessor "fdel"))
  else return none

/-- The code of an object, if what it says is its code is some. -/
def codeOf? (x : Obj) : Run (Option Obj) := do
  match ← take? x "__code__" with
  | none => return none
  | some c => if ← isA c .code then return some c else return none

/-- The code among the constants of a piece of code. -/
def nestedCode (c : Obj) : Run (List Obj) := do
  (← elementsOf (← take c "co_consts")).filterM fun x => isA x .code

/-- What a class holds. -/
def heldBy (c : Obj) : Run (List Obj) := do
  let members ← elementsOf (← callAttribute (← keptBy c) "values" [])
  return members.filter (· != .none)

/-- Refuses a call of a member. -/
def refuseAccess (definition owner : Obj) : Run Unit := do
  let method ← take definition "name"
  let word ← take (← take definition "visibility") "value"
  let visibility ← callAttribute word "replace" [.word "_class", .word ""]
  raise .access [("method", method), ("visibility", visibility),
    ("owner", ← take owner "__name__")]

/-- Where a call comes from: from a frame, or from nowhere. -/
abbrev Caller := Option Frame

/-- How a call of a member is checked. -/
def gate (definition owner : Obj) : Gate Run Obj Obj Frame where
  layer? := layerOf?
  wrapped? x := do return (← findUnbound? x "__wrapped__").filter (· != .none)
  isOne x y := do return (← get).identical x y
  code? := codeOf?
  nested := nestedCode
  tooDeep := throw .tooManyLayers
  isPublic := do truthOf (← take (← take definition "visibility") "is_public")
  isProtected := do isMember (← take definition "visibility") .visibility "PROTECTED"
  below c := do elementsOf (← callAttribute c "__subclasses__" [])
  isAmong := isAmong
  members := heldBy
  isCaller frame c := do
    let w ← get
    return frame.any fun f => sameCode w codeDepth f c
  refuse := refuseAccess definition owner
  room := do return chainFuel + (← get).heap.size
  depth := return chainFuel

/-- Fails unless a member may be called. -/
def checkAccess (definition owner : Obj) (caller : Caller) : Run Unit :=
  (gate definition owner).check owner caller

end StubClass
