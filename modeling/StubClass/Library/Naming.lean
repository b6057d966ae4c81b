import StubClass.Library.Given

set_option autoImplicit false

/-! # Names of objects

A name is a text that says of itself that it has the form of an identifier, and that is none of the
reserved words. What stands for a marker is one of three types. -/

namespace StubClass

/-- The reserved words, as a set holds them. -/
def reservedTable : Table :=
  Table.ofTexts (Text.reservedWords.map fun n => (n, .none))

/-- Whether an object is a name that can be used. -/
def isIdentifier (x : Obj) : Run Bool := do
  if !(← isA x .str) then return false
  else if !(← truthOf (← callAttribute x "isidentifier" [])) then return false
  else return (← valueUnder? reservedTable x).isNone

/-- Refuses an object that is no name; `role` says what it was to name. -/
def requireName (x : Obj) (role : String) : Run Unit := do
  if ← isIdentifier x then return ()
  else raise .invalidIdentifier [("name", x), ("role", .word role)]

/-- The types that stand for random values. -/
def markerTypes : List Obj :=
  [.type .int, .type .str, .type .symbol]

/-- Whether an object is one of the markers: a class that a set of the markers holds. -/
def isMarker (x : Obj) : Run Bool := do
  if !(← isA x .type) then return false
  else
    return (← valueUnder? (markerTypes.map fun t => ⟨.self t, t, .none⟩) x).isSome

end StubClass
