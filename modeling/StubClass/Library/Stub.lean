import StubClass.Library.Access
import StubClass.Library.Declaration
import StubClass.Library.Function

set_option autoImplicit false

/-! # Generated members as objects

A generated member keeps its definition, the signature that its calls are checked against, what
resolves its return value, its function, and the class that it was made for. A call of the function
first checks whether the caller may, then whether the arguments fit, and then resolves the return
value. -/

namespace StubClass

/-! ## Passing arguments on -/

/-- A callable as it is named in messages about its arguments. -/
def calleeWords (f : Obj) : Run String := do
  match ← take? f "__qualname__" with
  | none => plainText f
  | some name => do
    let own := (← plainText name) ++ "()"
    match ← take? f "__module__" with
    | none | some .none => return own
    | some m =>
      if ← isEqual m (.word BuiltinType.standardModule) then return own
      else return (← plainText m) ++ "." ++ own

/-- Objects by keyword from an object that holds them under texts. -/
def spreadKeywords (f x : Obj) : Run (List (Obj × Obj)) := do
  let d ← newDict []
  let isFailed (e : Failure) : Bool := e.isA .noAttribute
  let told ← match (← get).table? x with
    | some _ => some <$> updateFrom d x
    | none =>
      catching isFailed do
        let keys ← elementsOf (← callAttribute x "keys" [])
        for key in keys do
          putItem d key (← partUnder x key)
  if told.isNone then
    let words ← calleeWords f
    throw (.badType (words ++ " argument after ** must be a mapping, not "
      ++ (← get).clippedTitle x))
  let t := (← get).tableOf d
  if t.any fun e => !(e.key matches .word _) then
    let w ← get
    if t.any fun e => (w.text? e.key).isNone then throw (.badType "keywords must be strings")
  return t.map fun e => (e.key, e.value)

/-- Objects by position from an object that can be gone through. -/
def spreadPositional (f x : Obj) : Run (List Obj) := do
  match ← elements? x with
  | some xs => return xs
  | none => do
    let words ← calleeWords f
    throw (.badType (words ++ " argument after * must be an iterable, not "
      ++ (← get).clippedTitle x))

/-- Calls an object with what two others hold by position and by keyword. -/
def callSpread (f positional keywords : Obj) : Run Obj := do
  let named ← spreadKeywords f keywords
  call f ⟨← spreadPositional f positional, named⟩

/-! ## Members -/

/-- Refuses arguments that do not fit, for a failure to bind them. -/
def refuseArguments {α : Type} (self : Obj) (e : Failure) : Run α := do
  let method ← take (← take self "definition") "name"
  let signature ← plainOf (← take self "_signature")
  raiseFor (some e) .arity [("method", method), ("signature", signature),
    ("reason", ← newText e.message)]

/-- Calls a member from inside: the arguments have to fit. -/
def invokeMember (self positional keywords : Obj) : Run Obj := do
  let bound : Run Unit := do
    let f ← take (← take self "_signature") "bind"
    let _ ← callSpread f positional keywords
  tryCatch bound fun e =>
    if e.isA .badType then refuseArguments self e else throw e
  callAttribute self "_resolver" []

/-- Makes the function of a member. -/
def makeStubFunction (self : Obj) : Run Obj := do
  let definition ← take self "definition"
  let f ← newFunction (← stubCode) [definition, self] BuiltinType.stubMethod.moduleName
  let notes ← newDict (Table.ofTexts
    (["receiver", "args", "kwargs", "return"].map fun n => (n, .word "object")))
  assign f "__annotations__" (some notes)
  assign f "__name__" (some (← take definition "name"))
  assign f "__qualname__" (some (← take definition "name"))
  let word ← inText (← take (← take definition "visibility") "value")
  let declaration ← inText (← callAttribute definition "render_signature" [])
  assign f "__doc__" (some (← newText ("Generated " ++ word ++ " stub " ++ declaration ++ ".")))
  assign f "__signature__" (some (← take definition "full_signature"))
  assign f "__stub_definition__" (some definition)
  return f

/-- The owner that a call of a member is checked for. -/
def accessOwner (self receiver : Obj) : Run Obj := do
  match ← take self "owner" with
  | .none => do
    if ← isA receiver .type then return receiver else return (← get).typeOf receiver
  | c => return c

/-- Calls the function of a member. -/
def callStub (definition self receiver : Obj) (rest : Operands) (caller : Frame) : Run Obj := do
  let owner ← accessOwner self receiver
  checkAccess definition owner (some caller)
  let f ← take self "invoke"
  apply f (← packed rest)

/-- A function of generated members. -/
def stubFunction (t : BuiltinType) (name : String) (g : Given) : Run Obj := do
  let self := g.self
  match t, name with
  | .stubClassMethod, _ => do
    let f ← take self "function"
    let owner := g.get "owner"
    let w ← get
    makeMethod (.ofList [f, if owner == .none then w.typeOf (g.get "instance") else owner])
  | _, "__init__" => do
    let definition := g.get "definition"
    assign self "definition" (some definition)
    assign self "owner" (some .none)
    assign self "_resolver" (some (g.get "resolver"))
    assign self "_signature" (some (← take definition "signature"))
    assign self "function" (some (← callAttribute self "_make_function" []))
    return .none
  | _, "__repr__" => do
    let title ← typeNameIn self
    let word ← inText (← take (← take (← take self "definition") "visibility") "value")
    let label ← inText (← take (← take self "definition") "name")
    newText ("<" ++ title ++ " " ++ word ++ " " ++ label ++ ">")
  | _, "__set_name__" => do
    let owner := g.get "owner"
    assign self "owner" (some owner)
    let path ← inText (← take owner "__qualname__")
    let label ← newText (path ++ "." ++ (← inText (g.get "name")))
    assign (← take self "function") "__qualname__" (some label)
    return .none
  | _, "__get__" => do
    let f ← take self "function"
    if g.get "instance" == .none then return f else makeMethod (.ofList [f, g.get "instance"])
  | _, "invoke" => invokeMember self (g.get "args") (g.get "kwargs")
  | _, "_make_function" => makeStubFunction self
  | t, name => notProvided (t.name ++ "." ++ name)

/-! ## Making members -/

/-- The value that a marker stands for, drawn from a source; anything else stands for itself. -/
def randomValue (marker source settings : Obj) : Run Obj := do
  let text : Run Obj := do
    callingAttribute source "alphanumeric" (do return [← take settings "string_length"])
  match marker with
  | .type .int =>
    callingAttribute source "integer" do
      let low ← take settings "integer_min"
      return [low, ← take settings "integer_max"]
  | .type .str => text
  | .type .symbol => do apply (.type .symbol) [← text]
  | x => return x

/-- What resolves the return value of a definition. -/
def makeResolver (definition source settings : Obj) : Run Obj := do
  let marker ← take definition "return_value"
  let moduleName := "code_generator.application.return_resolver"
  if ← truthOf (← take definition "wants_random") then
    newFunction (← randomCode) [settings, marker, source] moduleName
  else newFunction (← literalCode) [marker] moduleName

/-- Makes the member of a definition. -/
def makeMember (definition resolver : Obj) : Run Obj := do
  if ← truthOf (← take (← take definition "visibility") "is_class_level") then
    construct .stubClassMethod [definition, resolver] []
  else construct .stubMethod [definition, resolver] []

end StubClass
