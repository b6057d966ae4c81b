import StubClass.Error

set_option autoImplicit false

/-! # Formal parameters

A function names its parameters, and a call of it gives arguments by position and by keyword. The
arguments by position fill the first parameters, then each argument by keyword goes to the parameter
of its name; a parameter that is left needs a default. `Formal.take` finds what each parameter is
given, or the first thing that is wrong with the call. -/

namespace StubClass

/-- How a parameter takes arguments, from the first of a list to the last. -/
inductive FormalKind where
  | positionalOnly
  | positional
  /-- All further arguments by position. -/
  | furtherPositional
  | keywordOnly
  /-- All further arguments by keyword. -/
  | furtherKeyword
deriving Repr, DecidableEq, Inhabited

/-- A parameter of a function. -/
structure Formal where
  kind : FormalKind
  name : Name
  default : Option Value
  /-- What is noted on the values that it takes. -/
  note : Option String
deriving Repr, Inhabited

/-- What a call gives: values by position, and values by keyword, in their order. -/
structure CallArguments where
  positional : List Value
  keywords : List (String × Value)
deriving Repr, Inhabited

namespace CallArguments

/-- The call that gives values by position. -/
def ofList (vs : List Value) : CallArguments :=
  ⟨vs, []⟩

/-- The call with one more argument in front. -/
def withFirst (a : CallArguments) (v : Value) : CallArguments :=
  { a with positional := v :: a.positional }

end CallArguments

namespace Formal

/-- A parameter that goes by position or keyword. -/
def required (name : String) : Formal :=
  ⟨.positional, .ofText name, none, none⟩

/-- A parameter that goes by position or keyword and has a default. -/
def optional (name : String) (default : Value) : Formal :=
  ⟨.positional, .ofText name, some default, none⟩

/-- A parameter that goes by keyword only. -/
def named (name : String) : Formal :=
  ⟨.keywordOnly, .ofText name, none, none⟩

/-- The parameters that take all arguments. -/
def anything : List Formal :=
  [⟨.furtherPositional, .ofText "args", none, none⟩,
    ⟨.furtherKeyword, .ofText "kwargs", none, none⟩]

/-- Whether a parameter can be given by position. -/
def goesByPosition (f : Formal) : Bool :=
  f.kind == .positionalOnly || f.kind == .positional

/-- Whether a parameter can be given by keyword. -/
def goesByKeyword (f : Formal) : Bool :=
  f.kind == .positional || f.kind == .keywordOnly

/-- Whether one of some parameters is given by a keyword; the keyword has to be a text for that. -/
def takesKeyword (formals : List Formal) (keyword : Option String) : Bool :=
  formals.any fun f => f.goesByKeyword && some f.name.text == keyword

variable {α : Type}

/-- What is given by keyword, put to what was given before. -/
def takeKeywords (formals : List Formal) :
    (taken : List (String × α)) → List (String × α) → Except CallFault (List (String × α))
  | taken, [] => .ok taken
  | taken, (keyword, v) :: rest =>
    if formals.any fun f => f.goesByKeyword && f.name.text == keyword then
      if taken.any fun t => t.1 == keyword then .error (.repeated keyword)
      else takeKeywords formals (taken ++ [(keyword, v)]) rest
    else if formals.any fun f => f.kind == .furtherKeyword then takeKeywords formals taken rest
    else
      let misused := (formals.filter fun f =>
        f.kind == .positionalOnly && ((keyword, v) :: rest).any fun k => k.1 == f.name.text).map
          fun f => f.name.text
      if misused.isEmpty then .error (.unexpected keyword) else .error (.positionalOnly misused)

/-- The parameters that are left without a value. -/
def lacking (taken : List (String × α)) (formals : List Formal) : List String :=
  (formals.filter fun f => f.default.isNone && !taken.any fun t => t.1 == f.name.text).map
    fun f => f.name.text

/-- What the parameters of a function are given by position and by keyword; a default is not given.
-/
def takeAll (formals : List Formal) (positional : List α) (keywords : List (String × α)) :
    Except CallFault (List (String × α)) := do
  let slots := formals.filter goesByPosition
  let taken ← takeKeywords formals ((slots.map fun f => f.name.text).zip positional) keywords
  let given := positional.length
  if slots.length < given && !formals.any fun f => f.kind == .furtherPositional then
    let keywordOnly := formals.countP fun f =>
      f.kind == .keywordOnly && taken.any fun t => t.1 == f.name.text
    throw (.tooMany (slots.countP fun f => f.default.isNone) slots.length given keywordOnly)
  match lacking taken slots with
  | [] =>
    match lacking taken (formals.filter fun f => f.kind == .keywordOnly) with
    | [] => return taken
    | names => throw (.missing true names)
  | names => throw (.missing false names)

/-- What the parameters of a function are given by a call; a default is not given. -/
def take (formals : List Formal) (a : CallArguments) :
    Except CallFault (List (String × Value)) :=
  takeAll formals a.positional a.keywords

end Formal

/-! ## Making up a declared error -/

namespace ErrorKind

/-- The parameters of a declared error, after the error itself. -/
def formals : ErrorKind → List Formal
  | .invalidParameterKind => [.required "kind"]
  | .invalidIdentifier => [.required "name", .required "role"]
  | .invalidVisibility => [.required "visibility"]
  | .parameterOrder => [.named "method", .named "parameter", .named "reason"]
  | .duplicateParameter => [.named "method", .named "parameter"]
  | .duplicateMethod => [.required "name"]
  | .invalidConfig => [.required "field", .required "reason"]
  | .arity => [.named "method", .named "signature", .named "reason"]
  | .access => [.named "method", .named "visibility", .named "owner"]

end ErrorKind

/-- The wording of an error that only holds values, which go by position only. -/
def plainReport (name : String) (a : CallArguments) : Except Error String :=
  if a.keywords.isEmpty then .ok (plainMessage a.positional)
  else .error (.ordinary .badType (name ++ "() takes no keyword arguments"))

end StubClass
