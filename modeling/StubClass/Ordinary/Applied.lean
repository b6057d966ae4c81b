import StubClass.Ordinary.Binary
import StubClass.Ordinary.Writing

set_option autoImplicit false

/-! # Types with arguments, and several types in one

A type can be given arguments: what comes of it makes the same objects as the type and has the
attributes of the type, but for a few of its own. Several types in one keep each type once, in the
order in which they came, and are equal to those of the same types in any order. -/

namespace StubClass

/-! ## Types with arguments -/

/-- A type with arguments: those of a tuple, or one. -/
def newApplied (origin item : Obj) : Run Obj := do
  let arguments ← if (← get).isOf item .tuple then pure item else newTuple [item]
  makeOf .appliedType (.applied origin arguments false)

/-- Makes a type with arguments by hand. -/
def makeApplied (a : Operands) : Run Obj := do
  if !a.keywords.isEmpty then throw (.badType "GenericAlias() takes no keyword arguments")
  else
    match ← takeBetween "GenericAlias" "GenericAlias" 2 2 a with
    | [origin, item] => newApplied origin item
    | _ => return .none

/-- Calls a type with arguments: what it makes is told how it was made, if it takes that. -/
def callApplied (x origin : Obj) (a : Operands) : Run Obj := do
  let y ← call origin a
  let refuses (e : Failure) : Bool := e.isMissing || e.isBadType
  let _ ← catching refuses (assign y "__orig_class__" (some x))
  return y

/-- Whether an object says that it is a type with arguments. -/
def looksApplied (x : Obj) : Run Bool :=
  (Option.isSome <$> take? x "__origin__") <&&> (Option.isSome <$> take? x "__args__")

/-- A type as it is written inside of others: a class by its path, anything else in its literal
form. -/
def typeLiteral (x : Obj) : Run String := do
  if ← looksApplied x then literalOf x
  else
    match ← take? x "__qualname__" with
    | none => literalOf x
    | some name => do
      match ← take? x "__module__" with
      | none | some .none => literalOf x
      | some m =>
        if (← get).text? m == some BuiltinType.standardModule then plainText name
        else do
          let path ← plainText m
          return path ++ "." ++ (← plainText name)

/-- The literal form of a type with arguments. -/
def appliedLiteral (origin arguments : Obj) (isSpread : Bool) : Run String := do
  let name ← typeLiteral origin
  let inner ← ((← get).parts? arguments |>.getD []).mapM fun x =>
    if x == .ellipsis then return "..." else typeLiteral x
  let written := if inner.isEmpty then "()" else commaJoined inner
  return (if isSpread then "*" else "") ++ name ++ "[" ++ written ++ "]"

/-- Whether two types with arguments are equal, if both are some. -/
def appliedEqual? (x y : Obj) : Run (Option Obj) := do
  let w ← get
  match w.body x, w.body y with
  | .applied origin arguments isSpread, .applied origin' arguments' isSpread' =>
    if isSpread != isSpread' then return some (.bool false)
    else if ← isSame origin origin' then some <$> compare .eq arguments arguments'
    else return some (.bool false)
  | _, _ => return none

/-! ## Several types in one -/

/-- Whether an object can be one of several types. -/
def World.isUnionable (w : World) (x : Obj) : Bool :=
  x == .none || w.isClass x || w.isOf x .appliedType || w.isExactly x .typeUnion

/-- The types that an object stands for. -/
def World.unionParts (w : World) (x : Obj) : List Obj :=
  match x, w.body x with
  | .none, _ => [.type .none]
  | _, .union types => (w.parts? types).getD []
  | x, _ => [x]

/-- Types without those that came before. -/
def withoutRepeated (known : List Obj) : List Obj → Run (List Obj)
  | [] => return known
  | x :: xs => do
    let w ← get
    let isThere ← known.anyM fun y =>
      if w.isOf x .appliedType && w.isOf y .appliedType then isSame x y else return x == y
    withoutRepeated (if isThere then known else known ++ [x]) xs

/-- Several types in one; one type stays itself. -/
def unionOf (x y : Obj) : Run Obj := do
  let w ← get
  if !w.isUnionable x || !w.isUnionable y then return .unknownOperand
  else
    match ← withoutRepeated [] (w.unionParts x ++ w.unionParts y) with
    | [c] => return c
    | cs => do makeOf .typeUnion (.union (← newTuple cs))

/-- The literal form of several types in one. -/
def unionLiteral (types : Obj) : Run String := do
  let texts ← ((← get).parts? types |>.getD []).mapM fun c =>
    if c == .type .none then return "None" else typeLiteral c
  return String.intercalate " | " texts

/-- Whether two unions of types are equal, if both are some. -/
def unionEqual? (x y : Obj) : Run (Option Obj) := do
  let w ← get
  match w.body x, w.body y with
  | .union xs, .union ys => do
    let s ← apply (.type .set) [xs]
    some <$> compare .eq s (← apply (.type .set) [ys])
  | _, _ => return none

/-! ## Operators and methods -/

/-- The refusal to give arguments to what takes none. -/
def notGeneric (x : Obj) : Run Obj := do
  let written ← literalOf x
  throw (.badType (written ++ " is not a generic class"))

/-- An operator of types with arguments, or of several types in one. -/
def appliedOperator (t : BuiltinType) (name : String) (x : Obj) (a : Operands) : Run Obj := do
  let equal? (y : Obj) : Run (Option Obj) :=
    if t == .typeUnion then unionEqual? x y else appliedEqual? x y
  match name with
  | "__eq__" => do return (← equal? (← expectOne name a)).getD .unknownOperand
  | "__ne__" => do
    match ← equal? (← expectOne name a) with
    | some answer => do return .bool !(← truthOf answer)
    | none => return .unknownOperand
  | "__hash__" => do
    let _ ← expect name 0 a
    newInt (← hashOf x).toInt
  | "__getitem__" => do
    let _ ← expectOne name a
    notGeneric x
  | "__iter__" => do
    let _ ← expect name 0 a
    makeOf .appliedIterator (.sequenceIterator (some x) 0)
  | _ => do
    let _ ← expectOne name a
    return .unknownOperand

/-- A method of types with arguments. -/
def appliedMethod (name function : String) (x : Obj) (a : Operands) : Run Obj := do
  match (← get).body x, name with
  | .applied origin _ _, "__mro_entries__" => do
    let _ ← takeOne function a
    newTuple [origin]
  | _, "__instancecheck__" => do
    let _ ← takeOne function a
    throw (.badType "isinstance() argument 2 cannot be a parameterized generic")
  | _, "__subclasscheck__" => do
    let _ ← takeOne function a
    throw (.badType "issubclass() argument 2 cannot be a parameterized generic")
  | .applied origin arguments isSpread, "__reduce__" => do
    takeNone function a
    if isSpread then do
      let plain ← makeOf .appliedType (.applied origin arguments false)
      newTuple [.held .module "next", ← newTuple [← iteratorOf plain]]
    else newTuple [(← get).typeOf x, ← newTuple [origin, arguments]]
  | _, _ => notProvided function

end StubClass
