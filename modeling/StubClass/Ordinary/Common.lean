import StubClass.Ordinary.Applied
import StubClass.Ordinary.Bytes
import StubClass.Ordinary.Callable
import StubClass.Ordinary.Complex

set_option autoImplicit false

/-! # What all objects and all classes share

Making and setting up objects, their attributes, their equality, and the functions of classes.
Arguments for making an object are refused unless its class has a function of its own that takes
them. -/

namespace StubClass

/-! ## Making -/

/-- The names of the abstract methods of a class. -/
def abstractNames (c : Obj) : Run (List String) := do
  let names ← elementsOf (← readClassField c "__abstractmethods__")
  let sorted ← newList names
  sortBy sorted none false
  (← partsNow sorted).mapM fun x => do
    let w ← get
    match w.text? x with
    | some text => return text
    | none =>
      throw (.badType ("sequence item 0: expected str instance, "
        ++ Text.clip 80 (w.typeTitle x) ++ " found"))

/-- Makes an object of a class in the way that all objects share. -/
def makePlain (c : Obj) (a : Operands) : Run Obj := do
  let w ← get
  if !a.isEmpty && !w.doesAs c .object "__new__" then
    throw (.badType "object.__new__() takes exactly one argument (the type to instantiate)")
  else if !a.isEmpty && w.doesAs c .object "__init__" then
    throw (.badType (Text.clip 200 (w.titleOf c) ++ "() takes no arguments"))
  else if ((w.class? c).map ClassBody.isAbstract).getD false then do
    let names ← abstractNames c
    throw (.badType ("Can't instantiate abstract class " ++ w.titleOf c ++ " with abstract method"
      ++ (if names.length == 1 then "" else "s") ++ " " ++ commaJoined names))
  else makeOfClass c .plain

/-- Sets an object up in the way that all objects share. -/
def setUpPlain (x : Obj) (a : Operands) : Run Unit := do
  let w ← get
  let c := w.typeOf x
  let refuse (name : String) : Run Unit :=
    throw (.badType (name
      ++ ".__init__() takes exactly one argument (the instance to initialize)"))
  if a.isEmpty then return ()
  else if !w.doesAs c .object "__init__" then refuse "object"
  else if w.doesAs c .object "__new__" then refuse (Text.clip 200 (w.typeTitle x))
  else return ()

/-- Makes an object of a class in the way of a built-in type. -/
def makeIn (t : BuiltinType) (c : Obj) (a : Operands) : Run Obj := do
  match t with
  | .object => makePlain c a
  | .type => makeClass c a
  | .int => makeInt c a
  | .bool => makeBool a
  | .float => makeFloat c a
  | .complex => makeComplex c a
  | .str => makeText c a
  | .bytes => makeBytes c a
  | .list => makeOfClass c (.list [])
  | .dict => makeOfClass c (.dict [])
  | .set => makeOfClass c (.set {})
  | .tuple => makeTuple c a
  | .none => makeSingle t .none a
  | .unknownOperand => makeSingle t .unknownOperand a
  | .ellipsis => makeSingle t .ellipsis a
  | .function => makeFunction a
  | .method => makeMethod a
  | .classMethod | .staticMethod => makeOfClass c (.binder .none)
  | .property => makeOfClass c (.property ⟨.none, .none, .none, .none, false, none⟩)
  | .cell => makeCell a
  | .appliedType => makeApplied a
  | .partialCall => makePartial c a
  | .readOnlyDict => makeReadOnly a
  | .reversed => makeReversed a
  | .randomCore => makeOfClass c (.twister (Random.Twister.ofSeed 0))
  | t => notProvided (t.name ++ ".__new__")

/-- The type whose way of making objects a class follows. -/
def World.makerOf (w : World) (c : Obj) : BuiltinType :=
  ((w.orderOf c).findSome? fun k =>
    match w.ownHeld? k "__new__" with
    | some (.held t "__new__") => some t
    | _ => none).getD .object

/-- Makes an object of a class by the function of a built-in type for it. -/
def makeByHand (t : BuiltinType) (a : Operands) : Run Obj := do
  let w ← get
  let function := t.name ++ ".__new__("
  match a.positional with
  | [] => throw (.badType (function ++ "): not enough arguments"))
  | c :: _ =>
    if !w.isClass c then
      throw (.badType (function ++ "X): X is not a type object (" ++ w.typeTitle c ++ ")"))
    else
      let name := w.titleOf c
      let maker := w.makerOf c
      if !w.derives c (.type t) then
        throw (.badType (function ++ name ++ "): " ++ name ++ " is not a subtype of " ++ t.name))
      else if maker != t then
        throw (.badType (function ++ name ++ ") is not safe, use " ++ maker.name ++ ".__new__()"))
      else makeIn t c (a.drop 1)

/-- The types that make no objects when they are called. -/
def isMadeOnlyInside (t : BuiltinType) : Bool :=
  (t.isIterator && t != .reversed) || [BuiltinType.builtinMethod, .slotMethod, .methodAttribute,
    .slotAttribute, .computedAttribute, .fieldAttribute, .classAttribute, .keysView, .valuesView,
    .entriesView, .orderedKeys, .orderedValues, .orderedEntries, .typeUnion].contains t

/-- Sets a new object up with the arguments of its making, if it is one of the class. -/
def setUpNew (c x : Obj) (a : Operands) : Run Obj := do
  let w ← get
  if !w.derives (w.typeOf x) c then return x
  else
    match w.special? x "__init__" with
    | none => return x
    | some hook => do
      let answer ← call (← bindHeld hook (some x) (w.typeOf x)) a
      if answer == .none then return x
      else
        throw (.badType ("__init__() should return None, not '"
          ++ (← get).clippedTitle answer ++ "'"))

/-- Calls a class in the way of all classes: makes an object of it, and sets it up. -/
def callClass (c : Obj) (a : Operands) : Run Obj := do
  let w ← get
  match c, a.positional, a.keywords with
  | .type .type, [x], [] => return w.typeOf x
  | _, xs, _ =>
    if c == .type .type && xs.length == 1 then throw (.badType "type() takes no keyword arguments")
    else if c == .type .type && xs.length != 3 then
      throw (.badType "type() takes 1 or 3 arguments")
    else
      match c with
      | .type t =>
        if isMadeOnlyInside t then throw (.badType ("cannot create '" ++ t.title ++ "' instances"))
      | _ => pure ()
      match w.find? c "__new__" with
      | some (.held t _) => do setUpNew c (← makeIn t c a) a
      | _ => do setUpNew c (← call (← take c "__new__") (a.withFirst c)) a

/-! ## All objects -/

/-- Refuses to change an object in the way that all objects share, if its class has another one. -/
def refuseOther (t : BuiltinType) (name : String) (x : Obj) : Run Unit := do
  let w ← get
  if t == .object && w.isClass x then
    throw (.badType ("can't apply this " ++ name ++ " to " ++ w.typeTitle x ++ " object"))
  else return ()

/-- An operator that all objects share; those of classes have the same names. -/
def objectOperator (t : BuiltinType) (name : String) (x : Obj) (a : Operands) : Run Obj := do
  let w ← get
  match name with
  | "__init__" => do
    let isSetUpInside := match w.typeOf x with
      | .type c => isMadeOnlyInside c
      | _ => false
    if isSetUpInside then return .none
    if t == .type then
      if a.positional.length == 1 && !a.keywords.isEmpty then
        throw (.badType "type.__init__() takes no keyword arguments")
      else if a.positional.length != 1 && a.positional.length != 3 then
        throw (.badType "type.__init__() takes 1 or 3 arguments")
    else setUpPlain x a
    return .none
  | "__str__" => do
    let _ ← expect name 0 a
    return (← callSpecial? x "__repr__" []).getD .none
  | "__hash__" => do
    let _ ← expect name 0 a
    newInt (Hash.self x).toInt
  | "__bool__" => do
    let _ ← expect name 0 a
    return .bool (x != .none)
  | "__getattribute__" => do
    let n ← attributeName (← expectOne name a)
    if t == .type then takeOfClass x n else takePlainly x n
  | "__setattr__" => do
    match ← expectBetween name 2 2 a with
    | [n, y] => do
      refuseOther t name x
      let n ← attributeName n
      if t == .type then assignOfClass x n (some y) else assignPlainly x n (some y)
    | _ => pure ()
    return .none
  | "__delattr__" => do
    let n ← expectOne name a
    refuseOther t name x
    let n ← attributeName n
    if t == .type then assignOfClass x n none else assignPlainly x n none
    return .none
  | "__eq__" => do
    let y ← expectOne name a
    return if w.identical x y then .bool true else .unknownOperand
  | "__ne__" => do
    match ← askComparison .eq x (← expectOne name a) with
    | some answer => do return .bool !(← truthOf answer)
    | none => return .unknownOperand
  | "__lt__" | "__le__" | "__gt__" | "__ge__" => do
    let _ ← expectOne name a
    return .unknownOperand
  | _ => notProvided (t.name ++ "." ++ name)

/-- A method that all objects share. -/
def objectMethod (name function : String) (x : Obj) (a : Operands) : Run Obj := do
  match name with
  | "__format__" => do
    let form ← formArgument function a
    if form.isEmpty then plainOf x
    else
      throw (.badType ("unsupported format string passed to " ++ (← get).clippedTitle x
        ++ ".__format__"))
  | _ => notProvided function

/-- The bytes that an object takes, as a type says that gives them. -/
def roomMethod (t : BuiltinType) (function : String) (x : Obj) (a : Operands) : Run Obj := do
  takeNone function a
  let w ← get
  let front := (w.roomOf (w.typeOf x)).size
  match t, x, w.body x with
  | .object, _, _ => newInt (w.bytesOf x)
  | .type, _, _ => newInt (w.roomOf x).bytesOfClass
  | .int, .bool _, _ => newInt (wholeBytes 1)
  | .int, _, .int n => newInt (wholeBytes n)
  | .str, _, .str text => newInt (textBytes (w.typeOf x == .type .str) text)
  | .list, _, .list xs => newInt (front + Room.word * listRoom xs.length)
  | .dict, _, .dict t => newInt (front + tableBytes t)
  | .orderedDict, _, .dict t => newInt (front + tableBytes t + orderBytes t)
  | _, _, _ => notProvided function

/-! ## All classes -/

/-- A method of classes. -/
def classMethodOf (name function : String) (c : Obj) (a : Operands) : Run Obj := do
  let w ← get
  match name with
  | "mro" => do
    takeNone function a
    newList (c :: (← if c == .type .object then pure [] else orderBehind (w.basesOf c)))
  | "__subclasses__" => do
    takeNone function a
    newList (w.derivedFrom c)
  | "__instancecheck__" => do return .bool (← isInstance (← takeOne function a) c)
  | "__subclasscheck__" => do
    let d ← takeOne function a
    if w.isClass d then return .bool (w.derives d c)
    else throw (.badType "issubclass() arg 1 must be a class")
  | _ => notProvided function

/-- A function of a built-in type on a class. -/
def builtinClassMethod (t : BuiltinType) (name function : String) (c : Obj) (a : Operands) :
    Run Obj := do
  match t, name with
  | _, "__init_subclass__" => do
    takeNone function a
    return .none
  | _, "__subclasshook__" => do
    let _ ← byPosition name a
    return .unknownOperand
  | .dict, "fromkeys" => fromKeys c a
  | _, "__class_getitem__" => do newApplied c (← takeOne function a)
  | .orderedDict, "fromkeys" => orderedFromKeys c a
  | .type, "__prepare__" => newDict []
  | .bytes, "fromhex" => bytesFromHex c function a
  | .float, "fromhex" => floatFromHex c function a
  | .float, "__getformat__" => do
    match ← textArgument "__getformat__() argument" (← takeOne function a) with
    | "double" | "float" => newText "IEEE, little-endian"
    | _ => throw (.badValue "__getformat__() argument 1 must be 'double' or 'float'")
  | .int, "from_bytes" => wholeFromBytes c a
  | _, _ => notProvided function

end StubClass
