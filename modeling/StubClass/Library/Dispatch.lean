import StubClass.Library.Bound
import StubClass.Library.CallShape
import StubClass.Library.Choice
import StubClass.Library.Generator
import StubClass.Library.Layer

set_option autoImplicit false

/-! # Calling objects

Every call of an object comes through here. A function runs its code; a method puts its receiver in
front; a class makes an object; a prepared call adds what was prepared; any other object is called
by the function of its class for it. Calls within calls go down one level each, and there is a last
level. -/

namespace StubClass

/-! ## Functions -/

/-- Calls a function of this library with what its parameters are given. -/
def callLibrary (t : BuiltinType) (name : String) (g : Given) : Run Obj :=
  match t with
  | .generator => generatorFunction name g
  | .builder => builderFunction name g
  | .definition => definitionFunction name g
  | .parameter => parameterFunction name g
  | .settings => if name == "__post_init__" then checkSettings g.self
    else recordFunction t name g
  | .stubMethod | .stubClassMethod => stubFunction t name g
  | .seededSource | .fixedSource | .systemSource => sourceFunction t name g
  | .randomGenerator => randomFunction name g
  | .cachedProperty => keepingFunction name g
  | .partialMethod => preparingFunction name g
  | .choice => choiceFunction name g
  | .choiceType => choiceTypeFunction name g
  | .choiceProperty => choicePropertyFunction name g
  | .parameterKind => kindAccessor name g.self
  | .visibility => visibilityAccessor name g.self
  | .parameterPassing =>
    if name == "__str__" then take g.self "name" else newPassing (g.get "cls") (g.get "description")
  | .signature =>
    if name == "from_callable" then signatureOf (g.get "obj") else signatureFunction name g
  | .boundArguments => boundFunction name g
  | .signatureParameter => signatureParameterFunction name g
  | .symbol => do
    let text ← plainText (← callHeld .str "__repr__" (.ofList [g.self]))
    newText ("Symbol(" ++ text ++ ")")
  | .echo => return g.self
  | t => notProvided (t.name ++ "." ++ name)

/-- What a piece of code is closed over under a name. -/
def closedOver (c : CodeBody) (closure : List Obj) (name : String) : Run Obj := do
  match (← get).body (closure.getD (c.freeNames.idxOf name) .none) with
  | .cell (some x) => return x
  | _ =>
    throw (.ordinary .unboundName ("cannot access free variable '" ++ name
      ++ "' where it is not associated with a value in enclosing scope"))

/-- Runs a piece of code with what its parameters are given and what it is closed over. -/
def runCode (c : CodeBody) (closure : List Obj) (a : Operands) (g : Given) (caller : Frame) :
    Run Obj := do
  let named (name : String) : Run Obj := closedOver c closure name
  match c.kind with
  | .labelled _ => return .none
  | .constant => named "value"
  | .literal => named "marker"
  | .callback number => callBack number a
  | .prepared => do callPrepared (← named "self") (g.get "cls_or_self") g.rest
  | .stub => do
    let descriptor ← named "descriptor"
    callStub (← named "definition") descriptor (g.get "receiver") g.rest caller
  | .random => do
    let marker ← named "marker"
    let source ← named "source"
    randomValue marker source (← named "config")
  | .rebuilding "_reconstructor" => rebuildFrom (g.get "cls") (g.get "base") (g.get "state")
  | .rebuilding "__newobj__" => callAttribute (g.get "cls") "__new__" (g.get "cls" :: g.further)
  | .rebuilding _ => do
    let f ← take (g.get "cls") "__new__"
    let given ← elementsOf (g.get "args")
    call f ⟨g.get "cls" :: given, ((← get).tableOf (g.get "kwargs")).map fun e => (e.key, e.value)⟩
  | .library t name => callLibrary t name g

/-- Calls a function. -/
def callFunction (f : FunctionBody) (a : Operands) : Run Obj := do
  match (← get).code? f.code with
  | none => return .none
  | some c => do
    let g ← fill f c.kind.shape.formals a
    let caller := (← read).place.frame
    within (some f.code) (runCode c f.closure a g caller)

/-! ## Objects -/

/-- A callable with its methods taken apart, their receivers put in front; `fuel` bounds how many
there are. -/
def World.flattened (w : World) : (fuel : Nat) → Obj → Operands → Obj × Operands
  | 0, x, a => (x, a)
  | fuel + 1, x, a =>
    match w.body x with
    | .method f r => w.flattened fuel f (a.withFirst r)
    | _ => (x, a)

/-- Calls a call that was prepared in part. -/
def callPartial (f : Obj) (positional : List Obj) (keywords : Obj) (a : Operands) : Run Obj := do
  let d ← joinedKeywords keywords a.keywords
  let named := ((← get).tableOf d).map fun e => (e.key, e.value)
  call f ⟨positional ++ a.positional, named⟩

/-- Calls an object. -/
def callObject (x : Obj) (a : Operands) : Run Obj := do
  let w ← get
  let (x, a) := w.flattened chainFuel x a
  match w.special? x "__call__", x, w.body x with
  | none, _, _ => throw (.badType ("'" ++ w.clippedTitle x ++ "' object is not callable"))
  | some (.held _ _), .held t name, _ => callHeld t name a
  | some (.held .function _), _, .function f => callFunction f a
  | some (.held .type _), c, _ => callClass c a
  | some (.held _ _), _, .builtinMethod t name r _ => callBuiltinMethod t name r a
  | some (.held .partialCall _), _, .partialCall f positional keywords =>
    callPartial f positional keywords a
  | some (.held .staticMethod _), _, .binder inner => call inner a
  | some (.held .appliedType _), _, .applied origin _ _ => callApplied x origin a
  | some (.held _ _), _, _ =>
    throw (.badType ("'" ++ w.clippedTitle x ++ "' object is not callable"))
  | some hook, _, _ => do call (← bindHeld hook (some x) (w.typeOf x)) a

/-! ## Levels -/

/-- How many levels calls can go down. -/
def callDepth : Nat := 960

/-- The failure of a call that has no level left. -/
def lastCall (x : Obj) (a : Operands) : Bare Obj := fun w =>
  match w.function? (w.flattened chainFuel x a).1 with
  | some _ => .error .tooDeep w
  | none => .error .tooManyCalls w

/-- The surroundings of a part of a session with so many levels below it; `doings` are what is
known by number from outside. -/
def contextAt (doings : Nat → Operands → Run Obj) : (levels : Nat) → Place → Context
  | 0, place =>
    { call := fun x a _ => lastCall x a, callback := fun _ _ _ => throw .tooDeep, place }
  | levels + 1, place =>
    { call := fun x a p => callObject x a (contextAt doings levels p)
      callback := fun n a p => doings n a (contextAt doings levels { p with frame := none })
      place }

/-- The surroundings at the top, outside of all code that is known. -/
def outermost (doings : Nat → Operands → Run Obj) : Context :=
  contextAt doings callDepth {}

end StubClass
