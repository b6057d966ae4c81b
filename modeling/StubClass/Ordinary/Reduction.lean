import StubClass.Ordinary.Common

set_option autoImplicit false

/-! # Taking objects apart

An object can be taken apart into a function and what it has to be given to make an equal object,
with the state that the new object is given, and what it holds. The state of an object are its
attributes and what stands in its slots. What is known to make no sense anew is refused. -/

namespace StubClass

/-! ## The functions that make objects anew -/

/-- The function of a name that makes an object anew. -/
def rebuilder (name : String) : Run Obj :=
  keeping (.type .object) name do
    let code ← makeOf .code (.code ⟨.rebuilding name, name, name, [], []⟩)
    let f ← newFunction code [] "copyreg"
    if name == "__newobj_ex__" then
      assign f "__doc__" (some (.word ("Used by pickle protocol 4, instead of __newobj__ to allow "
        ++ "classes with\n    keyword-only arguments to be pickled correctly.\n    ")))
    return f

/-- Makes an object of a class by the function of a base for it, with a state of the base. -/
def rebuildFrom (c base state : Obj) : Run Obj := do
  if base == .type .object then apply (.held .object "__new__") [c]
  else do
    let x ← callAttribute base "__new__" [c, state]
    let setUp ← take base "__init__"
    if ← compares .ne setUp (.held .object "__init__") then
      let _ ← callAttribute base "__init__" [x, state]
    return x

/-! ## States -/

/-- The texts that a class names as its slots itself. -/
def namedSlots (slots : Obj) : Run (List Obj) := do
  if ← isA slots .str then return [slots] else elementsOf slots

/-- The names of the slots that the classes of an order name, as the classes keep them. -/
def slotsAlong : List Obj → Run (List Obj)
  | [] => return []
  | c :: cs => do
    let w ← get
    let here ← match w.ownHeld? c "__slots__" with
      | none => pure []
      | some slots => namedSlots slots
    let w ← get
    let kept := here.filterMap fun x =>
      match w.text? x with
      | some "__dict__" | some "__weakref__" => none
      | some name =>
        let full := mangled (w.nameText c) name
        some (if full == name then x else .word full)
      | none => some x
    return kept ++ (← slotsAlong cs)

/-- The names of the slots of the objects of a class. The class keeps them once they were asked for,
if it can be changed. -/
def slotNamesOf (c : Obj) : Run Obj := do
  let name := "__slotnames__"
  match (← get).ownHeld? c name with
  | some x => do
    let w ← get
    if x == .none || w.isOf x .list then return x
    else
      throw (.badType (w.clippedTitle c ++ "." ++ name ++ " should be a list or None, not "
        ++ w.clippedTitle x))
  | none => do
    let names ← match ← take? c "__slots__" with
      | none => pure []
      | some _ => do slotsAlong (← elementsOf (← take c "__mro__"))
    let names ← newList names
    let _ ← catching (fun _ => true) (assign c name (some names))
    return names

/-- What stands in the slots of an object, by their names. -/
def filledSlots (x : Obj) : List Obj → Run Table
  | [] => return []
  | name :: names => do
    let label ← attributeName name
    let here ← take? x label
    let rest ← filledSlots x names
    return match here with
      | some y => Table.textEntry label y :: rest
      | none => rest

/-- The attributes that an object keeps, as a dictionary, if there are some. -/
def keptAttributes? (x : Obj) : Run (Option Obj) := do
  let w ← get
  if w.isClass x then some <$> newDict (w.ownTable x)
  else return ((w.entity? x).bind Entity.dict).filter fun d => !(w.tableOf d).isEmpty

/-- Whether the objects of a type differ in how many parts their make has. -/
def BuiltinType.isSized : BuiltinType → Bool
  | int | bool | tuple | bytes | type | code => true
  | _ => false

/-- Whether the objects of a type have a make of their own that is more than attributes and slots.
-/
def BuiltinType.hasHiddenMake (t : BuiltinType) : Bool :=
  !t.isChangeable && !([object, none, unknownOperand, ellipsis].contains t)

/-- The state of an object. If all that it is has to be in its state, an object is refused whose
make is more than that. -/
def stateOf (x : Obj) (isAll : Bool) : Run Obj := do
  let w ← get
  let t := w.makeTypeOf (w.typeOf x)
  if isAll && t.isSized then throw (.badType ("cannot pickle " ++ w.clippedTitle x ++ " objects"))
  let attributes := (← keptAttributes? x).getD .none
  let names ← slotNamesOf (w.typeOf x)
  if isAll && t.hasHiddenMake then
    throw (.badType ("cannot pickle '" ++ w.clippedTitle x ++ "' object"))
  let names := ((← get).parts? names).getD []
  match ← filledSlots x names with
  | [] => return attributes
  | slots => do newTuple [attributes, ← newDict slots]

/-- The state of an object, as the object tells it. -/
def toldState (x : Obj) (isAll : Bool) : Run Obj := do
  let f ← take x "__getstate__"
  match (← get).body f with
  | .builtinMethod .object "__getstate__" r _ =>
    if r == x then stateOf x isAll else apply f []
  | _ => apply f []

/-! ## Taking apart -/

/-- The refusal to take an object apart. -/
def notTakenApart {α : Type} (x : Obj) : Run α := do
  throw (.badType ("cannot pickle '" ++ (← get).clippedTitle x ++ "' object"))

/-- What the function for making an object is given, as the object tells it: by position, and by
keyword. -/
def newArguments (x : Obj) : Run (Option (Obj × Option Obj)) := do
  let refuse (text : String) : Run (Option (Obj × Option Obj)) := throw (.badType text)
  match ← callSpecial? x "__getnewargs_ex__" [] with
  | some pair => do
    let w ← get
    match w.body pair with
    | .tuple [xs, named] =>
      if !w.isOf xs .tuple then
        refuse ("the first item of the tuple returned by __getnewargs_ex__ must be a tuple, not '"
          ++ w.clippedTitle xs ++ "'")
      else if !w.isOf named .dict then
        refuse ("the second item of the tuple returned by __getnewargs_ex__ must be a dict, not '"
          ++ w.clippedTitle named ++ "'")
      else return some (xs, some named)
    | .tuple parts =>
      throw (.badValue ("__getnewargs_ex__ should return a tuple of length 2, not "
        ++ counted parts.length))
    | _ =>
      refuse ("__getnewargs_ex__ should return a tuple, not '" ++ w.clippedTitle pair ++ "'")
  | none =>
    match ← callSpecial? x "__getnewargs__" [] with
    | none => return none
    | some xs => do
      let w ← get
      if w.isOf xs .tuple then return some (xs, none)
      else refuse ("__getnewargs__ should return a tuple, not '" ++ w.clippedTitle xs ++ "'")

/-- An object taken apart for the function of its class that makes objects. -/
def newParts (x : Obj) : Run Obj := do
  let w ← get
  let c := w.typeOf x
  match c with
  | .type t => if isMadeOnlyInside t then notTakenApart x
  | _ => pure ()
  let given ← newArguments x
  let w ← get
  let (f, made) ← match given with
    | some (xs, some named) =>
      if (w.tableOf named).isEmpty then do
        pure (← rebuilder "__newobj__", ← newTuple (c :: (w.parts? xs).getD []))
      else do pure (← rebuilder "__newobj_ex__", ← newTuple [c, xs, named])
    | some (xs, none) => do
      pure (← rebuilder "__newobj__", ← newTuple (c :: (w.parts? xs).getD []))
    | none => do pure (← rebuilder "__newobj__", ← newTuple [c])
  let isList := w.isOf x .list
  let isDict := w.isOf x .dict
  let state ← toldState x !(given.isSome || isList || isDict)
  let elements ← if isList then iteratorOf x else pure .none
  let entries ← if isDict then do iteratorOf (← callAttribute x "items" []) else pure .none
  newTuple [f, made, state, elements, entries]

/-- The first class of an order that makes its objects in a way of its own that is built in. -/
def firstMaker : List Obj → Run Obj
  | [] => return .type .object
  | c :: cs => do
    let isFixed := match c with
      | .type t => !t.isChangeable && !([BuiltinType.partialCall, .randomCore].contains t)
      | _ => false
    if isFixed then return c
    else
      let made ← take c "__new__"
      match made, c with
      | .held t "__new__", .type u => if t == u then return c else firstMaker cs
      | _, _ => firstMaker cs

/-- An object taken apart into its class, the class that makes it, and their states, in the way of
the first two protocols. -/
def oldParts (x : Obj) (protocol : Int) : Run Obj := do
  let c ← take x "__class__"
  let name : Run String := do literalOf (← take c "__name__")
  let base ← firstMaker (← elementsOf (← take c "__mro__"))
  let state ← if base == .type .object then pure .none
    else if base == c then do throw (.badType ("cannot pickle " ++ (← name) ++ " object"))
    else apply base [x]
  let made ← newTuple [c, base, state]
  let hasSlots : Run Bool := do
    match ← take? x "__slots__" with
    | some slots => truthOf slots
    | none => return false
  let told ← match ← take? x "__getstate__" with
    | none =>
      if ← hasSlots then do
        throw (.badType ("cannot pickle " ++ (← name) ++ " object: a class that defines __slots__ "
          ++ "without defining __getstate__ cannot be pickled with protocol "
          ++ (Value.int protocol).literal))
      else do pure ((← take? x "__dict__").getD .none)
    | some f => do
      let ofClass ← take ((← get).typeOf x) "__getstate__"
      if ← pure (ofClass == .held .object "__getstate__") <&&> hasSlots then
        throw (.badType ("a class that defines __slots__ without defining __getstate__ cannot be "
          ++ "pickled"))
      else apply f []
  let f ← rebuilder "_reconstructor"
  if ← truthOf told then newTuple [f, made, told] else newTuple [f, made]

/-- An object taken apart in the way of a protocol. -/
def partsBy (x : Obj) (protocol : Int) : Run Obj :=
  if 2 ≤ protocol then newParts x else oldParts x protocol

/-- An object taken apart: as the object does it, if its class has a function of its own for it. -/
def partsOf (x : Obj) (protocol : Int) : Run Obj := do
  let name := "__reduce__"
  match ← take? x name with
  | none => partsBy x protocol
  | some f => do
    let ofClass ← take ((← get).typeOf x) name
    if ofClass == .held .object name then partsBy x protocol else apply f []

/-- A method that all objects share for being taken apart. -/
def reductionMethod (name function : String) (x : Obj) (a : Operands) : Run Obj := do
  match name with
  | "__getstate__" => do
    takeNone function a
    stateOf x false
  | "__reduce__" => do
    takeNone function a
    partsBy x 0
  | _ => do partsOf x (← smallArgument (← takeOne function a))

/-! ## Built-in objects -/

/-- An attribute as the call that takes it. -/
def attributeParts (x : Obj) (name : Obj) : Run Obj := do
  newTuple [.held .module "getattr", ← newTuple [x, name]]

/-- An object of a built-in type taken apart by its type. -/
def ownParts (x : Obj) (function : String) (a : Operands) : Run Obj := do
  takeNone function a
  let w ← get
  match x, w.body x with
  | .unknownOperand, _ | .ellipsis, _ => do newText (← literalOf x)
  | .held t name, _ =>
    if t == .module then return .word name else attributeParts (.type t) (.word name)
  | _, .method f r => do attributeParts r (← take f "__name__")
  | _, .builtinMethod _ name r _ => attributeParts r (.word name)
  | _, .slot owner name | _, .dictAccess owner name => attributeParts owner (.word name)
  | _, .partialCall f positional keywords => do
    let attributes := ((w.entity? x).bind Entity.dict).getD .none
    let given ← newTuple [f]
    newTuple [w.typeOf x, given, ← newTuple [f, ← newTuple positional, keywords, attributes]]
  | _, .dict _ => do
    let given ← newTuple []
    let state ← toldState x false
    let entries ← iteratorOf (← callAttribute x "items" [])
    newTuple [(← get).typeOf x, given, state, .none, entries]
  | _, _ => notProvided function

/-- Gives a prepared call a state: its function, what is given by position and by keyword, and its
attributes. -/
def restorePartial (x state : Obj) : Run Unit := do
  let w ← get
  let refuse : Run Unit := throw (.badType "invalid partial state")
  match w.body state with
  | .tuple [f, positional, keywords, attributes] =>
    let isFit := w.isCallable f && w.isOf positional .tuple
      && (keywords == .none || w.isOf keywords .dict)
    if !isFit then refuse
    else
      let keywords ← if keywords == .none then newDict []
        else if w.isExactly keywords .dict then pure keywords
        else newDict (w.tableOf keywords)
      putBody x (.partialCall f ((w.parts? positional).getD []) keywords)
      forget x "args"
      change x fun e => { e with dict := if attributes == .none then none else some attributes }
  | _ => refuse

end StubClass
