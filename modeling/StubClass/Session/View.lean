import StubClass.Library.Dispatch
import StubClass.Library.Prelude
import StubClass.Method.Definition
import StubClass.Session.Shown

set_option autoImplicit false

/-! # Views

What an answer tells of the objects of a session. Whatever answers the questions for the attributes
of a builder, a definition, a generator, a class or a generated member can be told of as one. -/

namespace StubClass

/-! ## Failures -/

/-- A failure as it is shown: its attributes as trees. -/
structure FailureView where
  kind : FailureKind
  message : String
  attributes : List (String × Tree)
  cause : Option (FailureKind × String)

/-- A failure of the language alone as it is shown. -/
def FailureView.ofError (e : Error) : FailureView :=
  let f := Failure.ofError e
  let attributes := (e.report?.map Report.attributes).getD []
  ⟨f.kind, f.message, attributes.map fun a => (a.1, .plain a.2),
    e.cause?.map fun c => ((Failure.ofError c).kind, c.message)⟩

/-- The trees of attributes. -/
def shownAttributes : List (String × Obj) → Run (List (String × Tree))
  | [] => return []
  | (name, x) :: rest => do
    let t ← shown x
    return (name, t) :: (← shownAttributes rest)

/-- A failure as it is shown. -/
def Failure.view (e : Failure) : Run FailureView := do
  return ⟨e.kind, e.message, ← shownAttributes e.attributes, e.cause⟩

/-- What a part comes to, or its failure as it is shown. -/
def attempt {α : Type} (r : Run α) : Run (Except FailureView α) :=
  tryCatch (Except.ok <$> r) fun e => Except.error <$> e.view

/-- What a part comes to in a world of its own. -/
def alone {α : Type} (r : Run α) : Except FailureView α :=
  match attempt r (outermost fun _ _ => return .none) World.initial with
  | .ok a _ => a
  | .error e _ => .error ⟨e.kind, e.message, [], e.cause⟩

/-- A declared error made up from arguments, as it is shown. -/
def makeDeclared (k : ErrorKind) (a : CallArguments) : Run FailureView := do
  match Formal.take (.required "self" :: k.formals) (a.withFirst .null) with
  | .error fault => throw (.ofError (.call (k.name ++ ".__init__") fault))
  | .ok taken => do
    let attributes ← (taken.filter fun t => t.1 != "self").mapM fun t => do
      return (t.1, ← plant t.2)
    Failure.view { kind := .declared k, message := ← wording k attributes, attributes }

/-! ## Parameters, builders and definitions -/

/-- An attribute of an object as a tree. -/
def shownAttribute (x : Obj) (name : String) : Run Tree := do
  shown (← take x name)

/-- What is told of a parameter: its kind, its name and its default. -/
structure ParameterView where
  kind : Tree
  name : Tree
  default : Tree

/-- What is told of objects as parameters. -/
def viewParameters : List Obj → Run (List ParameterView)
  | [] => return []
  | p :: ps => do
    let kind ← shownAttribute (← take p "kind") "value"
    let name ← shownAttribute p "name"
    let view : ParameterView := ⟨kind, name, ← shownAttribute p "default"⟩
    return view :: (← viewParameters ps)

/-- What is told of the parameters of an object. -/
def viewParametersOf (x : Obj) : Run (List ParameterView) := do
  viewParameters (← elementsOf (← take x "parameters"))

/-- What is told of a builder. -/
structure BuilderView where
  literal : String
  name : Tree
  visibility : Tree
  parameters : List ParameterView
  returnValue : Tree
  generateRandom : Tree

/-- What is told of an object as a builder. -/
def viewBuilder (x : Obj) : Run BuilderView := do
  let literal ← literalOf x
  let name ← shownAttribute x "name"
  let visibility ← shownAttribute (← take x "visibility") "value"
  let parameters ← viewParametersOf x
  let returnValue ← shownAttribute x "return_value"
  return ⟨literal, name, visibility, parameters, returnValue, ← shownAttribute x "generate_random"⟩

/-- What is told of a definition. -/
structure DefinitionView where
  name : Tree
  visibility : Tree
  parameters : List ParameterView
  returnValue : Tree
  generateRandom : Tree
  wantsRandom : Tree
  declaration : Tree
  signature : Except FailureView String
  fullSignature : Except FailureView String

/-- What is told of an object as a definition. -/
def viewDefinition (x : Obj) : Run DefinitionView := do
  let name ← shownAttribute x "name"
  let visibility ← shownAttribute (← take x "visibility") "value"
  let parameters ← viewParametersOf x
  let returnValue ← shownAttribute x "return_value"
  let generateRandom ← shownAttribute x "generate_random"
  let wantsRandom ← shownAttribute x "wants_random"
  let declaration ← shown (← callAttribute x "render_signature" [])
  let signature ← attempt (do plainText (← take x "signature"))
  let fullSignature ← attempt (do plainText (← take x "full_signature"))
  return { name, visibility, parameters, returnValue, generateRandom, wantsRandom, declaration,
           signature, fullSignature }

/-- What is told of a parameter outside of a session. -/
def Parameter.view (p : Parameter) : ParameterView :=
  ⟨.plain (.str p.kind.word), .plain p.name.toValue, .plain p.default⟩

/-- What is told of a definition outside of a session. -/
def MethodDefinition.view (d : MethodDefinition) : DefinitionView where
  name := .plain d.name
  visibility := .plain (.str d.visibility.word)
  parameters := d.parameters.map Parameter.view
  returnValue := .plain d.returnValue
  generateRandom := .plain (.bool d.generateRandom)
  wantsRandom := .plain (.bool d.wantsRandom)
  declaration := .plain (.str d.declaration)
  signature := (d.signature.map Signature.text).mapError fun e => .ofError (.malformedSignature e)
  fullSignature :=
    (d.fullSignature.map Signature.text).mapError fun e => .ofError (.malformedSignature e)

/-! ## Generators -/

/-- What is told of settings. -/
structure SettingsView where
  fields : List (String × Tree)
  literal : String

/-- The names of the fields of settings. -/
def settingNames : List String :=
  ["class_name", "integer_min", "integer_max", "string_length"]

/-- What is told of an object as settings. -/
def viewSettings (x : Obj) : Run SettingsView := do
  let fields ← settingNames.mapM fun n => do return (n, ← shownAttribute x n)
  return ⟨fields, ← literalOf x⟩

/-- What is told of a definition in a list of definitions: its name, its visibility and its
declaration. -/
structure DefinitionRow where
  name : Tree
  visibility : Tree
  declaration : Tree

/-- What is told of objects as definitions in a list. -/
def viewRows : List Obj → Run (List DefinitionRow)
  | [] => return []
  | d :: ds => do
    let name ← shownAttribute d "name"
    let visibility ← shownAttribute (← take d "visibility") "value"
    let row : DefinitionRow :=
      ⟨name, visibility, ← shown (← callAttribute d "render_signature" [])⟩
    return row :: (← viewRows ds)

/-- What is told of a generator. -/
structure GeneratorView where
  methods : List DefinitionRow
  classMethods : List DefinitionRow
  isBuilt : Tree
  settings : SettingsView

/-- What is told of an object as a generator. -/
def viewGenerator (x : Obj) : Run GeneratorView := do
  let methods ← viewRows (← elementsOf (← take x "methods"))
  let classMethods ← viewRows (← elementsOf (← take x "class_methods"))
  let isBuilt ← shownAttribute x "is_built"
  return ⟨methods, classMethods, isBuilt, ← viewSettings (← take x "config")⟩

/-! ## Classes -/

/-- What is told of a class. -/
structure ClassView where
  name : Tree
  qualifiedName : Tree
  moduleName : Tree
  doc : Tree
  literal : String
  bases : List Tree
  order : List Tree

/-- The name of an object as it is shown, plain whatever kind of text it is. -/
def shownName (x : Obj) : Run Tree := do
  let name ← take x "__name__"
  match (← get).text? name with
  | some text => return .plain (.str text)
  | none => shown name

/-- The names of objects. -/
def namesOf (x : Obj) : Run (List Tree) := do
  (← elementsOf x).mapM shownName

/-- What is told of an object as a class. -/
def viewClass (x : Obj) : Run ClassView := do
  let name ← shownAttribute x "__name__"
  let qualifiedName ← shownAttribute x "__qualname__"
  let moduleName ← shownAttribute x "__module__"
  let doc ← shownAttribute x "__doc__"
  let literal ← literalOf x
  let bases ← namesOf (← take x "__bases__")
  return ⟨name, qualifiedName, moduleName, doc, literal, bases, ← namesOf (← take x "__mro__")⟩

/-! ## Generated members -/

/-- What is told of a generated member. -/
structure StubView where
  literal : String
  typeName : Tree
  owner : Tree
  name : Tree
  qualifiedName : Tree
  doc : Tree
  signature : String
  /-- Whether the function refers to the definition of the member. -/
  definitionIs : Bool

/-- The name of the owner of a member, or nothing. -/
def viewOwner (x : Obj) : Run Tree := do
  match ← take x "owner" with
  | .none => return .plain .null
  | c => shownName c

/-- What is told of an object as a generated member. -/
def viewStub (x : Obj) : Run StubView := do
  let literal ← literalOf x
  let typeName ← shownName ((← get).typeOf x)
  let owner ← viewOwner x
  let f ← take x "function"
  let name ← shownAttribute f "__name__"
  let qualifiedName ← shownAttribute f "__qualname__"
  let doc ← shownAttribute f "__doc__"
  let signature ← plainText (← signatureOf f)
  let mine ← take f "__stub_definition__"
  let definition ← take x "definition"
  return { literal, typeName, owner, name, qualifiedName, doc, signature
           definitionIs := (← get).identical mine definition }

/-- A generated member of a class: its name there, its visibility and the name of its owner. -/
structure StubRow where
  name : Tree
  visibility : Tree
  owner : Tree

/-- What is told of the entries of a dictionary of generated members. -/
def viewMembers : List (Obj × Obj) → Run (List StubRow)
  | [] => return []
  | (name, member) :: rest => do
    let visibility ← shownAttribute (← take (← take member "definition") "visibility") "value"
    let row : StubRow := ⟨← shown name, visibility, ← viewOwner member⟩
    return row :: (← viewMembers rest)

end StubClass
