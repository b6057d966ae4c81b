import StubClass.Class.Building
import StubClass.Class.Finding
import StubClass.Class.Registry
import StubClass.Library.Stub

set_option autoImplicit false

/-! # Building classes

A class is made of definitions: for each a member with what resolves its return value. The members
that are found on a class are collected along its resolution order; what stands under a name in a
nearer class hides what stands there further on. -/

namespace StubClass

/-! ## Building -/

/-- How a class is built. -/
def building (definitions settings source : Obj) : Building Run Obj Obj Obj where
  start := do
    let name : Run Obj := take settings "class_name"
    let own ← newDict (Table.ofTexts [("__module__", .word builtModule),
      ("__qualname__", ← name)])
    let doc := "Generated stub class " ++ (← inText (← name)) ++ "."
    putItem own (.word "__doc__") (← newText doc)
    return own
  definitions := elementsOf definitions
  add own d := do
    let member ← makeMember d (← makeResolver d source settings)
    putItem own (← take d "name") member
    return own
  finish own count := do
    let name : Run Obj := take settings "class_name"
    let c ← apply (.type .type) [← name, ← newTuple [], own]
    let label ← plainText (← name)
    addLog ("built " ++ label ++ " with " ++ counted count ++ " members")
    return c

/-- Builds a class of definitions. -/
def buildClass (definitions settings source : Obj) : Run Obj :=
  (building definitions settings source).run

/-! ## Members of a class -/

/-- How the generated members of a class are found. -/
def finding (members c : Obj) : Finding Run Obj Obj Obj Obj Table where
  order := do elementsOf (← take c "__mro__")
  entries k := do elementsOf (← callAttribute (← keptBy k) "items" [])
  parts e := do
    match ← elementsOf e with
    | [name, x] => return (name, x)
    | xs =>
      let least := xs.length < 2
      throw (.badValue (if least then "not enough values to unpack (expected 2, got "
        ++ counted xs.length ++ ")" else "too many values to unpack (expected 2)"))
  unseen := []
  isSeen seen name := return (← valueUnder? seen name).isSome
  see seen name := putAllKeys seen [name]
  isMember x := isA x .stubMethod
  keep name x := putItem members name x

/-- The generated members that are found on a class, under their names. -/
def stubMembers (c : Obj) : Run Obj := do
  let members ← newDict []
  (finding members c).collect
  return members

/-- The visibility of the generated member of a class under a name. -/
def visibilityOf (c name : Obj) : Run Obj := do
  let f ← take (← stubMembers c) "get"
  match ← apply f [name] with
  | .none => do
    let owner ← literalOf (← take c "__name__")
    throw (.noAttribute (owner ++ " has no generated member " ++ (← literalOf name)))
  | member => do take (← take member "definition") "visibility"

end StubClass
