import StubClass.Library.Given

set_option autoImplicit false

/-! # Making functions

Functions are made of a piece of code and what it is closed over. One piece of code stands behind
all functions that do the same. -/

namespace StubClass

/-- What the code under a label takes: the outermost takes what it is to call, and how deep. -/
def labelledFormals (label : String) : List Formal :=
  if label.toList.contains '.' then [] else ["level", "f", "args", "kwargs"].map Formal.required

/-- What a function takes that makes an object anew. -/
def rebuildingFormals (name : String) : List Formal :=
  match name with
  | "_reconstructor" => ["cls", "base", "state"].map Formal.required
  | "__newobj__" => [.required "cls", ⟨.furtherPositional, .ofText "args", none, none⟩]
  | _ => ["cls", "args", "kwargs"].map Formal.required

/-- What a piece of code takes. -/
def CodeKind.shape : CodeKind → Shape
  | .labelled label => .plain (labelledFormals label)
  | .constant => .plain Formal.anything
  | .callback _ => .plain [.required "m"]
  | .prepared =>
    .plain (⟨.positionalOnly, .ofText "cls_or_self", none, none⟩ :: Shape.further "args" "keywords")
  | .stub => .ofMember
  | .literal | .random => .plain []
  | .rebuilding name => .plain (rebuildingFormals name)
  | .library t name => (t.shape? name).getD (.plain Formal.anything)

/-! ## Functions made by this library -/

/-- The code of a function that is made inside of another one. -/
def innerCode (outer name : String) (kind : CodeKind) (freeNames : List String) : Run Obj :=
  codeUnder (outer ++ "." ++ freeNames.headD "")
    ⟨kind, name, outer ++ ".<locals>." ++ name, [], freeNames⟩

/-- The code of the functions of generated members. -/
def stubCode : Run Obj :=
  innerCode "StubMethod._make_function" "stub" .stub ["definition", "descriptor"]

/-- The code of the functions that methods prepared in part make. -/
def preparedCode : Run Obj :=
  innerCode "partialmethod._make_unbound_method" "_method" .prepared ["self"]

/-- The code of the functions that give a literal. -/
def literalCode : Run Obj :=
  innerCode "make_resolver" "<lambda>" .literal ["marker"]

/-- The code of the functions that draw a random value. -/
def randomCode : Run Obj :=
  innerCode "make_resolver" "<lambda>" .random ["config", "marker", "source"]

/-! ## Functions given from outside -/

/-- The name of the module that members are given from. -/
def outsideModule : String :=
  BuiltinType.box.moduleName

/-- The code under a label: a label names some code, the code inside of it and the code inside of
that. -/
def labelledCode (label : String) : Run Obj := do
  let base := (label.splitOn ".").headD ""
  let code (label name within : String) (nested : List Obj) (freeNames : List String) : Run Obj :=
    codeUnder label ⟨.labelled label, name, within ++ name, nested, freeNames⟩
  let within := base ++ ".<locals>."
  let deep ← code (base ++ ".deep") "deep" (within ++ "inner.<locals>.") []
    ["args", "f", "kwargs"]
  if label == base ++ ".deep" then return deep
  else
    let inner ← code (base ++ ".inner") "inner" within [deep] ["args", "f", "kwargs", "level"]
    if label == base ++ ".inner" then return inner else code base base "" [inner] []

/-- A function of the code under a label. -/
def newLabelled (label : String) : Run Obj := do
  let code ← labelledCode label
  let names := (((← get).code? code).map CodeBody.freeNames).getD []
  newFunction code (names.map fun _ => .none) outsideModule

/-- A function that takes anything and returns an object. -/
def newConstant (x : Obj) : Run Obj := do
  newFunction (← codeUnder "const" ⟨.constant, "const", "const", [], ["value"]⟩) [x] outsideModule

/-- A function that does what is known under a number from outside. -/
def newCallback (number : Nat) : Run Obj := do
  let name := "callback"
  newFunction (← codeUnder (name ++ "." ++ toString number)
    ⟨.callback number, name, name, [], []⟩) [] outsideModule

end StubClass
