import StubClass.Library.Function
import StubClass.Library.Stub

set_option autoImplicit false

/-! # Layers

Two layers are made of functions of this library: a value that is worked out once for an object and
then kept among its attributes, and a method that is prepared in part. -/

namespace StubClass

/-! ## Values that are kept -/

/-- The value that a layer keeps for an object, worked out the first time. -/
def keptValue (self object : Obj) : Run Obj := do
  let label ← take self "attrname"
  if label == .none then
    throw (.badType "Cannot use cached_property instance without calling __set_name__ on it.")
  else
    match ← take? object "__dict__" with
    | none => do
      let title ← literalOf (← take ((← get).typeOf object) "__name__")
      throw (.badType ("No '__dict__' attribute on " ++ title ++ " instance to cache "
        ++ (← literalOf label) ++ " property."))
    | some kept => do
      let missing ← makeOf .object .plain
      let look ← take kept "get"
      let known ← apply look [label, missing]
      if known != missing then return known
      else
        let y ← apply (← take self "func") [object]
        let isRefused (e : Failure) : Bool := e.isA .badType
        match ← catching isRefused (storeUnder kept label y) with
        | some _ => return y
        | none => do
          let title ← literalOf (← take ((← get).typeOf object) "__name__")
          throw (.badType ("The '__dict__' attribute on " ++ title
            ++ " instance does not support item assignment for caching "
            ++ (← literalOf label) ++ " property."))

/-- A function of layers that keep a value. -/
def keepingFunction (name : String) (g : Given) : Run Obj := do
  let self := g.self
  match name with
  | "__init__" => do
    let f := g.get "func"
    assign self "func" (some f)
    assign self "attrname" (some .none)
    assign self "__doc__" (some (← take f "__doc__"))
    assign self "lock" (some (← makeOf .object .plain))
    return .none
  | "__set_name__" => do
    let known ← take self "attrname"
    let label := g.get "name"
    if known == .none then assign self "attrname" (some label)
    else if ← compares .ne label known then
      let first ← literalOf known
      throw (.badType ("Cannot assign the same cached_property to two different names (" ++ first
        ++ " and " ++ (← literalOf label) ++ ")."))
    return .none
  | _ => if g.get "instance" == .none then return self else keptValue self (g.get "instance")

/-! ## Methods that are prepared in part -/

/-- The keywords of a prepared call, with more put to them. -/
def joinedKeywords (prepared : Obj) (more : List (Obj × Obj)) : Run Obj := do
  let d ← newDict []
  updateFrom d prepared
  for k in more do
    putItem d k.1 k.2
  return d

/-- Sets up a method that is prepared in part. -/
def setUpPreparation (self : Obj) (g : Given) : Run Obj := do
  let f := g.get "func"
  let isFit ← if (← get).isCallable f then pure true else pure (← take? f "__get__").isSome
  if !isFit then throw (.badType ((← literalOf f) ++ " is not callable or a descriptor"))
  let args ← newTuple g.further
  if ← isA f .partialMethod then
    assign self "func" (some (← take f "func"))
    assign self "args" (some (← binary "add" "+" (← take f "args") args))
    assign self "keywords" (some (← joinedKeywords (← take f "keywords") g.named))
  else
    assign self "func" (some f)
    assign self "args" (some args)
    let d ← newDict []
    assign self "keywords" (some (← joinedKeywords d g.named))
  return .none

/-- A function that takes a receiver and calls what was prepared for it. -/
def makeUnboundMethod (self : Obj) : Run Obj := do
  let f ← newFunction (← preparedCode) [self] BuiltinType.partialMethod.moduleName
  assign f "__isabstractmethod__" (some (← take self "__isabstractmethod__"))
  assign f "_partialmethod" (some self)
  return f

/-- Calls what was prepared with a receiver. -/
def callPrepared (self receiver : Obj) (rest : Operands) : Run Obj := do
  let keywords ← joinedKeywords (← take self "keywords") rest.keywords
  let f ← take self "func"
  let args ← spreadPositional f (← take self "args")
  let named ← spreadKeywords f keywords
  call f ⟨receiver :: args ++ rest.positional, named⟩

/-- Binds a method that is prepared in part. -/
def bindPreparation (self object owner : Obj) : Run Obj := do
  let inner ← take self "func"
  let bound ← match ← take? inner "__get__" with
    | none | some .none => pure none
    | some getter => do
      let f ← apply getter [object, owner]
      if f == (← take self "func") then pure none else pure (some f)
  match bound with
  | some f => do
    let args ← spreadPositional (.type .partialCall) (← take self "args")
    let named ← spreadKeywords (.type .partialCall) (← take self "keywords")
    let p ← call (.type .partialCall) ⟨f :: args, named⟩
    match ← take? f "__self__" with
    | some r => assign p "__self__" (some r)
    | none => pure ()
    return p
  | none => do
    let f ← callAttribute self "_make_unbound_method" []
    callAttribute f "__get__" [object, owner]

/-- A function of methods that are prepared in part. -/
def preparingFunction (name : String) (g : Given) : Run Obj := do
  let self := g.self
  match name with
  | "__init__" => setUpPreparation self g
  | "__get__" => bindPreparation self (g.get "obj") (g.get "cls")
  | "_make_unbound_method" => makeUnboundMethod self
  | "__isabstractmethod__" => do
    let f ← take self "func"
    return (← take? f "__isabstractmethod__").getD (.bool false)
  | _ => do
    let given ← literalsOf (← elementsOf (← take self "args"))
    let keywords ← take self "keywords"
    let named ← ((← get).tableOf keywords).mapM fun e => do
      let key ← plainText e.key
      return key ++ "=" ++ (← literalOf e.value)
    let c ← take self "__class__"
    let m ← inText (← take c "__module__")
    let path ← inText (← take c "__qualname__")
    let f ← inText (← take self "func")
    newText (m ++ "." ++ path ++ "(" ++ f ++ ", " ++ commaJoined given ++ ", "
      ++ commaJoined named ++ ")")

end StubClass
