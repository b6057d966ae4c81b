import StubClass.Formal.Shape
import StubClass.Ordinary.Dispatch

set_option autoImplicit false

/-! # Calling functions of this library

The functions of this library name their parameters. A call fills the parameters or is refused, in
words that name the function as it is called now. What a function leaves out of a call stands in the
function itself: the defaults of the last parameters, and those of the parameters by keyword. -/

namespace StubClass

/-- What a call gives to the parameters of a function: those that have a name, and what is left by
position and by keyword for functions that take more. -/
structure Given where
  taken : List (String × Obj)
  further : List Obj
  named : List (Obj × Obj)
deriving Inhabited

namespace Given

/-- What a parameter is given. -/
def get (g : Given) (name : String) : Obj :=
  (g.taken.lookup name).getD .none

/-- The object that a function is called on. -/
def self (g : Given) : Obj :=
  g.get "self"

/-- What is left by position and by keyword. -/
def rest (g : Given) : Operands :=
  ⟨g.further, g.named⟩

end Given

/-! ## Planting -/

/-- The object of a kind of parameters. -/
def ofKind (k : ParameterKind) : Obj :=
  .entity (ParameterKind.all.findIdx (· == k))

/-- The object of a visibility. -/
def ofVisibility (v : Visibility) : Obj :=
  .entity (ParameterKind.all.length + Visibility.all.findIdx (· == v))

mutual

/-- Plants a value: an object with its content. -/
def plant : Value → Run Obj
  | .null => return .none
  | .bool b => return .bool b
  | .int n => newInt n
  | .float x => newFloat x
  | .str text => newText text
  | .symbol text => makeOf .symbol (.str text)
  | .bytes bs => newBytes bs
  | .list vs => do newList (← plantAll vs)
  | .tuple vs => do newTuple (← plantAll vs)
  | .dict es => do newDict (← plantEntries [] es)
  | .type t => return .type t
  | .kind k => return ofKind k
  | .visibility v => return ofVisibility v

/-- Plants several values. -/
def plantAll : List Value → Run (List Obj)
  | [] => return []
  | v :: vs => do
    let x ← plant v
    return x :: (← plantAll vs)

/-- Plants entries, put to those of a table. -/
def plantEntries (t : Table) : List (Value × Value) → Run Table
  | [] => return t
  | e :: es => do
    let (key, x) ← plantEntry e
    plantEntries (← putUnder t key x) es

/-- Plants an entry. -/
def plantEntry : Value × Value → Run (Obj × Obj)
  | (key, v) => do
    let k ← plant key
    return (k, ← plant v)

end

/-! ## Filling parameters -/

/-- The defaults of parameters that go by position: those of the last ones. -/
def World.positionalDefaults (w : World) (formals : List Formal) (defaults : Obj) :
    List (String × Obj) :=
  let names := (formals.filter Formal.goesByPosition).map fun f => f.name.text
  let xs := (w.parts? defaults).getD []
  (names.drop (names.length - xs.length)).zip (xs.drop (xs.length - names.length))

/-- The defaults of parameters that go by keyword only. -/
def World.namedDefaults (w : World) (defaults : Obj) : List (String × Obj) :=
  ((w.table? defaults).getD []).filterMap fun e => (w.text? e.key).map fun n => (n, e.value)

/-- Fills the parameters of a function by a call. -/
def fill (f : FunctionBody) (formals : List Formal) (a : Operands) : Run Given := do
  let w ← get
  let defaults := w.positionalDefaults formals f.defaults ++ w.namedDefaults f.namedDefaults
  let formals := formals.map fun p =>
    { p with default := (defaults.lookup p.name.text).map fun _ => Value.null }
  let named := w.namedOf a
  match Formal.takeAll formals a.positional named with
  | .error fault =>
    throw (.badType ((w.text? f.qualifiedName).getD "" ++ "() " ++ fault.message))
  | .ok taken =>
    let isFree (k : Obj × Obj) : Bool := !Formal.takesKeyword formals (w.text? k.1)
    return ⟨taken ++ defaults, a.positional.drop (formals.countP Formal.goesByPosition),
      a.keywords.filter isFree⟩

/-! ## What the functions have in common -/

/-- The type of a class as it is named in messages. -/
def typeNameIn (x : Obj) : Run String := do
  inText (← take ((← get).typeOf x) "__name__")

/-- The wording of a declared error by its attributes. -/
def wording (kind : ErrorKind) (attributes : List (String × Obj)) : Run String := do
  let value (name : String) : Obj := (attributes.lookup name).getD .none
  let plain (name : String) : Run String := inText (value name)
  let literal (name : String) : Run String := literalOf (value name)
  match kind with
  | .invalidParameterKind => do return "Invalid parameter kind: " ++ (← literal "kind")
  | .invalidIdentifier => do
    let role ← inText (← callAttribute (value "role") "capitalize" [])
    return role ++ " name must be a valid identifier, got " ++ (← literal "name")
  | .invalidVisibility => do return "Invalid visibility: " ++ (← literal "visibility")
  | .parameterOrder => do
    let parameter ← plain "parameter"
    let method ← plain "method"
    return "Parameter '" ++ parameter ++ "' of '" ++ method ++ "': " ++ (← plain "reason")
  | .duplicateParameter => do
    let parameter ← plain "parameter"
    return "Duplicate parameter '" ++ parameter ++ "' in '" ++ (← plain "method") ++ "'"
  | .duplicateMethod => do return "Method '" ++ (← plain "name") ++ "' is already declared"
  | .invalidConfig => do
    let field ← plain "field"
    return "Invalid config '" ++ field ++ "': " ++ (← plain "reason")
  | .arity => do
    let method ← plain "method"
    let signature ← plain "signature"
    return method ++ signature ++ ": " ++ (← plain "reason")
  | .access => do
    let visibility ← plain "visibility"
    let method ← plain "method"
    return visibility ++ " method '" ++ method ++ "' called for " ++ (← plain "owner")

/-- Raises a declared error for another failure, if there is one; it is worded now. -/
def raiseFor {α : Type} (cause : Option Failure) (kind : ErrorKind)
    (attributes : List (String × Obj)) : Run α := do
  let message ← wording kind attributes
  throw { kind := .declared kind, message, attributes
          cause := cause.map fun e => (e.kind, e.message) }

/-- Raises a declared error. -/
def raise {α : Type} (kind : ErrorKind) (attributes : List (String × Obj)) : Run α :=
  raiseFor none kind attributes

/-- Whether an object is the one that a type holds under a name. -/
def isMember (x : Obj) (t : BuiltinType) (name : String) : Run Bool := do
  let member ← take (.type t) name
  return (← get).identical x member

/-- Calls a class with objects by position and by keyword. -/
def construct (t : BuiltinType) (positional : List Obj) (keywords : List (String × Obj)) :
    Run Obj :=
  call (.type t) ⟨positional, keywords.map fun k => (.word k.1, k.2)⟩

/-- An object as a tuple. -/
def tupleOf (x : Obj) : Run Obj :=
  apply (.type .tuple) [x]

/-- Takes an attribute and calls it with what is given by position, after the attribute is found. -/
def callingAttribute (x : Obj) (name : String) (arguments : Run (List Obj)) : Run Obj := do
  let f ← take x name
  apply f (← arguments)

/-- The objects that an object gives where several are put into one tuple. -/
def unpacked (x : Obj) : Run (List Obj) := do
  match ← elements? x with
  | some xs => return xs
  | none =>
    throw (.badType ("Value after * must be an iterable, not " ++ (← get).clippedTitle x))

/-- What a call is given as a tuple and a dictionary. -/
def packed (a : Operands) : Run (List Obj) := do
  let positional ← newTuple a.positional
  let keywords ← newDict []
  for k in a.keywords do
    putItem keywords k.1 k.2
  return [positional, keywords]

end StubClass
