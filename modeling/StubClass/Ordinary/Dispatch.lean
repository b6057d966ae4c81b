import StubClass.Ordinary.Applied
import StubClass.Ordinary.Chance
import StubClass.Ordinary.Directory
import StubClass.Ordinary.Ordered
import StubClass.Ordinary.Reduction

set_option autoImplicit false

/-! # What built-in types hold, called

What stands under a name of a built-in type is called with an object of the type first, or with its
class, or with nothing before the arguments. Whatever it is, the object has to be of the type. -/

namespace StubClass

/-! ## Operators -/

/-- Calls an operator of a built-in type on an object. -/
def operate (t : BuiltinType) (name : String) (x : Obj) (a : Operands) : Run Obj := do
  match name with
  | "__call__" => if t == .type then callClass x a else call x a
  | "__repr__" => do
    let _ ← expect name 0 a
    newText (← match t, (← get).body x with
      | .orderedDict, _ => orderedLiteral x
      | .appliedType, .applied origin arguments isSpread => appliedLiteral origin arguments isSpread
      | .typeUnion, .union types => unionLiteral types
      | _, _ => literalIn t x)
  | "__getattribute__" =>
    if [BuiltinType.method, .appliedType, .typeUnion].contains t then do
      take x (← attributeName (← expectOne name a))
    else objectOperator (if t == .type then t else .object) name x a
  | "__setattr__" | "__delattr__" => objectOperator (if t == .type then t else .object) name x a
  | _ =>
    let isType := [BuiltinType.type, .appliedType, .typeUnion].contains t
    if isType && name == "__or__" then return (← unionOf x (← expectOne name a))
    if isType && name == "__ror__" then return (← unionOf (← expectOne name a) x)
    match t with
    | .appliedType | .typeUnion => appliedOperator t name x a
    | .object | .type | .none | .unknownOperand | .ellipsis => objectOperator t name x a
    | .int | .bool | .float => numberOperator t name x a
    | .complex =>
      match (← get).body x with
      | .complex re im => complexOperator name x re im a
      | _ => return .unknownOperand
    | .str | .bytes | .tuple => sequenceOperator t name x a
    | .list => do
      if name == "__init__" then do
        setUpList x a
        return .none
      else listOperator name x a
    | .dict => do
      if name == "__init__" then do
        updateByCall x "dict" a
        return .none
      else dictOperator name x a
    | .readOnlyDict => readOnlyOperator name x a
    | .orderedDict => orderedOperator name x a
    | .orderedKeys | .orderedValues | .orderedEntries => do
      let _ ← expect name 0 a
      orderedViewIterator t false x
    | .set => setOperator name x a
    | .keysView | .entriesView => setViewOperator t name x a
    | .valuesView => viewOperator t name x a
    | .randomCore => do
      seedTwister x a.positional.head?
      return .none
    | t => if t.isIterator then iteratorOperator t name x a else callableOperator t name x a

/-! ## Methods -/

/-- Calls a method of a built-in type on an object; `function` is the name that it goes by in
messages. -/
def callMethodOf (t : BuiltinType) (name function : String) (x : Obj) (a : Operands) : Run Obj := do
  let w ← get
  if name == "__dir__" then directoryMethod t function x a
  else if name == "__sizeof__" && t != .set then roomMethod t function x a else
  match t, w.body x with
  | .type, _ => classMethodOf name function x a
  | .object, _ =>
    if ["__getstate__", "__reduce__", "__reduce_ex__"].contains name then
      reductionMethod name function x a
    else objectMethod name function x a
  | .list, _ => listMethod name function x a
  | .dict, _ => dictMethod name function x a
  | .readOnlyDict, _ => readOnlyMethod name function x a
  | .orderedDict, _ =>
    if name == "__reduce__" then ownParts x function a else orderedMethod name function x a
  | .appliedType, _ => appliedMethod name function x a
  | .orderedKeys, _ | .orderedValues, _ | .orderedEntries, _ => do
    takeNone function a
    orderedViewIterator t true x
  | .set, _ => setMethod name function x a
  | .tuple, .tuple xs => tupleMethod name function xs a
  | .str, .str text => textMethod name function x text a
  | .bytes, .bytes bs => bytesMethod name function x bs a
  | .producer, _ => producerMethod name function x a
  | .property, _ => propertyMethod name function x a
  | .code, _ => if name == "replace" then replaceCode function x a else notProvided function
  | .keysView, _ | .valuesView, _ | .entriesView, _ => viewMethod t name function x a
  | .randomCore, _ => twisterMethod name function x a
  | .int, _ | .float, _ => numberMethod name function x a
  | .complex, .complex re im => complexMethod name function x re im a
  | .partialCall, _ =>
    if name == "__setstate__" then do
      restorePartial x (← takeOne function a)
      return .none
    else ownParts x function a
  | t, _ =>
    if t.isIterator then iteratorMethod name function x a
    else if name == "__reduce__" then ownParts x function a
    else notProvided function

/-- Calls what a built-in type holds on an object. -/
def callBound (t : BuiltinType) (name function : String) (x : Obj) (a : Operands) : Run Obj := do
  match t.attributeKind? name with
  | some .slot => operate t name x a
  | some .classMethod => builtinClassMethod t name function x a
  | _ => callMethodOf t name function x a

/-- Calls a function of a built-in type that is bound to nothing. -/
def callFree (t : BuiltinType) (name function : String) (a : Operands) : Run Obj :=
  match name, t with
  | "__new__", _ => makeByHand t a
  | name, .module => callFreeFunction name a
  | "maketrans", .str => makeTranslation a
  | "maketrans", .bytes => byteTable a
  | _, _ => notProvided function

/-- Calls what a built-in type holds under a name, with the object first among the arguments. -/
def callHeld (t : BuiltinType) (name : String) (a : Operands) : Run Obj := do
  let w ← get
  let function := t.name ++ "." ++ name
  let needsArgument : Run Obj :=
    throw (.badType ("descriptor '" ++ name ++ "' of '" ++ Text.clip 100 t.title
      ++ "' object needs an argument"))
  match t.attributeKind? name, a.positional with
  | some .free, _ => callFree t name function a
  | some .slot, [] | some .classMethod, [] => needsArgument
  | some .slot, x :: _ =>
    if w.derives (w.typeOf x) (.type t) then operate t name x (a.drop 1)
    else
      throw (.badType ("descriptor '" ++ name ++ "' requires a '" ++ Text.clip 100 t.title
        ++ "' object but received a '" ++ Text.clip 100 (w.typeTitle x) ++ "'"))
  | some .classMethod, c :: _ => do
    requireClassBelonging t name c
    builtinClassMethod t name (w.qualifiedText c ++ "." ++ name) c (a.drop 1)
  | some .method, [] =>
    throw (.badType ("unbound method " ++ function ++ "() needs an argument"))
  | some .method, x :: _ => do
    requireBelonging (.held t name) x
    callMethodOf t name function x (a.drop 1)
  | _, _ =>
    throw (.badType ("'" ++ w.typeTitle (.held t name) ++ "' object is not callable"))

/-- Whether a method that has its receiver goes by its short name where it refuses keywords. -/
def hasShortName (t : BuiltinType) (name : String) : Bool :=
  [BuiltinType.str, .bytes].contains t && ("startswith" :: "endswith" :: searches).contains name

/-- Calls a method of a built-in type that has its receiver already. -/
def callBuiltinMethod (t : BuiltinType) (name : String) (receiver : Obj) (a : Operands) :
    Run Obj := do
  let w ← get
  let owner := if w.isClass receiver then w.qualifiedText receiver
    else w.qualifiedText (w.typeOf receiver)
  callBound t name (if hasShortName t name then name else owner ++ "." ++ name) receiver a

end StubClass
