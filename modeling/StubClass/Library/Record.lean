import StubClass.Library.Given

set_option autoImplicit false

/-! # Records

Definitions, parameters and settings are records: objects with fields that are filled when they are
made and cannot be changed in the usual way afterwards. Two records of one class are equal when
their fields are, and they are written with all their fields. -/

namespace StubClass

/-- The fields of a type of records. -/
def BuiltinType.recordFields : BuiltinType → List String
  | .definition => ["name", "visibility", "parameters", "return_value", "generate_random"]
  | .parameter => ["kind", "name", "default"]
  | .settings => ["class_name", "integer_min", "integer_max", "string_length"]
  | _ => []

/-- Changes an attribute in the way that all objects share. -/
def setPlainly (x : Obj) (name : String) (y : Obj) : Run Unit := do
  let _ ← callHeld .object "__setattr__" (.ofList [x, .word name, y])

/-- What stands in some fields of an object. -/
def fieldsOf (x : Obj) : List String → Run (List Obj)
  | [] => return []
  | n :: ns => do
    let y ← take x n
    return y :: (← fieldsOf x ns)

/-- Fills the fields of a record, and has it looked at if its type does so. -/
def setUpRecord (t : BuiltinType) (g : Given) : Run Obj := do
  for n in t.recordFields do
    setPlainly g.self n (g.get n)
  if t == .definition then return .none
  else do
    let _ ← callAttribute g.self "__post_init__" []
    return .none

/-- Refuses to change a field of a record, or to remove it; any other attribute is looked for behind
a class that no record belongs to. -/
def refuseChange (t : BuiltinType) (what : String) (name : Obj) : Run Obj := do
  if ← isAmong name (t.recordFields.map Obj.word) then
    throw (.ordinary .frozenField ("cannot " ++ what ++ " field " ++ (← literalOf name)))
  else throw (.badType "super(type, obj): obj must be an instance or subtype of type")

/-- Whether two records are equal, if they are of one class. -/
def recordEqual (t : BuiltinType) (x y : Obj) : Run Obj := do
  let theirs ← take y "__class__"
  if theirs != (← take x "__class__") then return .unknownOperand
  else
    let xs ← newTuple (← fieldsOf x t.recordFields)
    compare .eq xs (← newTuple (← fieldsOf y t.recordFields))

/-- The written fields of a record. -/
def writtenFields (x : Obj) : List String → Run (List String)
  | [] => return []
  | n :: ns => do
    let text ← literalOf (← take x n)
    return (n ++ "=" ++ text) :: (← writtenFields x ns)

/-- The literal form of a record. -/
def recordLiteral (t : BuiltinType) (x : Obj) : Run Obj := do
  if (← read).place.depicting.contains x then return .word "..."
  else
    depicting x do
      let name ← take (← take x "__class__") "__qualname__"
      let fields ← writtenFields x t.recordFields
      binary "add" "+" name (← newText ("(" ++ commaJoined fields ++ ")"))

/-- Fills the fields of a record with a stored state. -/
def restore (x : Obj) : List String → List Obj → Run Unit
  | n :: ns, y :: ys => do
    setPlainly x n y
    restore x ns ys
  | _, _ => return ()

/-- A function that records have in common. -/
def recordFunction (t : BuiltinType) (name : String) (g : Given) : Run Obj := do
  match name with
  | "__init__" => setUpRecord t g
  | "__setattr__" => refuseChange t "assign to" (g.get "name")
  | "__delattr__" => refuseChange t "delete" (g.get "name")
  | "__eq__" => recordEqual t g.self (g.get "other")
  | "__hash__" => do
    newInt (← hashOf (← newTuple (← fieldsOf g.self t.recordFields))).toInt
  | "__repr__" => recordLiteral t g.self
  | "__getstate__" => do newList (← fieldsOf g.self t.recordFields)
  | "__setstate__" => do
    restore g.self t.recordFields (← elementsOf (g.get "state"))
    return .none
  | _ => notProvided (t.name ++ "." ++ name)

end StubClass
