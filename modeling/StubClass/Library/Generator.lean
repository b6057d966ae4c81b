import StubClass.Generator.Declaring
import StubClass.Generator.Sending
import StubClass.Library.Building
import StubClass.Library.Source

set_option autoImplicit false

/-! # Generators as objects

A generator collects definitions, those of the class itself apart from those of its objects, and
builds classes from what it holds. A declaration opens a builder, hands it to a callback, and keeps
what the builder then holds. A member can be called from inside, past its visibility. -/

namespace StubClass

/-! ## Declarations -/

/-- Whether a definition of a name is among some. -/
def isDeclared (name : Run Obj) : List Obj → Run Bool
  | [] => return false
  | d :: ds => do
    let mine ← take d "name"
    if ← isEqual mine (← name) then return true else isDeclared name ds

/-- All definitions of a generator. -/
def allDefinitions (self : Obj) : Run (List Obj) := do
  let xs ← unpacked (← take self "_methods")
  return xs ++ (← unpacked (← take self "_class_methods"))

/-- Keeps a definition, and logs that it was declared. -/
def keepDefinition (self visibility d : Obj) : Run Unit := do
  let isClassLevel ← truthOf (← take visibility "is_class_level")
  let target ← take self (if isClassLevel then "_class_methods" else "_methods")
  let _ ← callAttribute target "append" [d]
  let word ← take visibility "value"
  let label ← take d "name"
  let declaration ← callAttribute d "render_signature" []
  let parts ← [word, label, declaration].mapM fun x => plainText x
  addLog ("declared " ++ parts.headD "" ++ " " ++ String.join (parts.drop 1))

/-- How a declaration goes. -/
def declaring (self name visibility configure : Obj) : Declaring Run Obj Obj where
  start := apply (.type .builder) [name, visibility]
  isDeclared b := do isDeclared (take b "name") (← allDefinitions self)
  refuse b := do raise .duplicateMethod [("name", ← take b "name")]
  configure b := do
    if configure != .none then
      let _ ← apply configure [b]
    return b
  freeze b := callAttribute b "freeze" []
  keep d := keepDefinition self visibility d

/-- Makes a declaration. -/
def declare (self name visibility configure : Obj) : Run Obj := do
  (declaring self name visibility configure).run
  return .none

/-- The functions of a generator that declare a member, with the visibility of the member. -/
def declaringFunctions : List (String × Visibility) :=
  [("public_method", .publicMember), ("private_method", .privateMember),
    ("protected_method", .protectedMember), ("public_class_method", .publicClass),
    ("private_class_method", .privateClass)]

/-! ## Functions -/

/-- Counts one more class that was built. -/
def countBuilt (self : Obj) : Run Unit := do
  let n ← take self "_built"
  let one ← newInt 1
  let next ← match ← callSpecial? n "__iadd__" [one] with
    | some .unknownOperand | none => binary "add" "+=" n one
    | some y => pure y
  assign self "_built" (some next)

/-- A function of generators. -/
def generatorFunction (name : String) (g : Given) : Run Obj := do
  let self := g.self
  match declaringFunctions.lookup name with
  | some v => do
    let f ← take self "_declare"
    apply f [g.get "name", ← take (.type .visibility) v.constant, g.get "configure"]
  | none =>
    match name with
    | "__init__" => do
      let settings ← if g.get "config" == .none then apply (.type .settings) []
        else pure (g.get "config")
      assign self "_config" (some settings)
      let source ← if g.get "random_source" == .none then apply (.type .systemSource) []
        else pure (g.get "random_source")
      assign self "_source" (some source)
      assign self "_methods" (some (← newList []))
      assign self "_class_methods" (some (← newList []))
      assign self "_built" (some (← newInt 0))
      return .none
    | "define" => do
      let generator ← call (g.get "cls") ⟨[], [(.word "config", g.get "config"),
        (.word "random_source", g.get "random_source")]⟩
      let _ ← apply (g.get "session") [generator]
      return generator
    | "config" => take self "_config"
    | "methods" => do tupleOf (← take self "_methods")
    | "class_methods" => do tupleOf (← take self "_class_methods")
    | "is_built" => do compare .gt (← take self "_built") (← newInt 0)
    | "build" => do
      let definitions ← newTuple (← allDefinitions self)
      let settings ← take self "_config"
      let source ← take self "_source"
      let c ← within none (buildClass definitions settings source)
      countBuilt self
      return c
    | "_declare" => declare self (g.get "name") (g.get "visibility") (g.get "configure")
    | _ => notProvided ("Generator." ++ name)

/-! ## Calls from inside -/

/-- How a call of an object from inside goes. -/
def sending (target : Obj) (name : String) (rest : Operands) : Sending Run Obj Obj where
  member? := do
    let x := (← findUnbound? target name).getD .none
    return if ← isA x .stubMethod then some x else none
  bindsToClass x := isA x .stubClassMethod
  isOnClass := isA target .type
  refuse bindsToClass := do
    let what := if bindsToClass then "Class" else "Instance"
    let label ← literalOf (.word name)
    throw (.noAttribute (what ++ " method " ++ label ++ " is not callable on "
      ++ (← literalOf target)))
  invoke x := do
    let f ← take x "invoke"
    apply f (← packed rest)
  callAttribute := do call (← take target name) rest

/-- Calls a member of an object from inside: a generated member past its visibility, and any other
attribute like everyone does. -/
def send (target : Obj) (name : String) (rest : Operands) : Run Obj :=
  (sending target name rest).run

end StubClass
