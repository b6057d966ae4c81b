import StubClass.Library.Dispatch

set_option autoImplicit false

/-! # What is there before a session

The types of this library are classes like those that are made later: they hold functions, values
that are worked out, and the members of the enumerations, and all of these can be changed. The
members of enumerations come first of all objects, so that their numbers are known. -/

namespace StubClass

/-! ## Members of enumerations -/

/-- A member of an enumeration: its constant, its value, and the number that it is with the words
for it, if it is one. -/
structure ChoiceMember where
  enumeration : BuiltinType
  constant : String
  value : Value
  number : Option Int
  words : Option String

/-- The members of all enumerations, in the order of their numbers. -/
def choiceMembers : List ChoiceMember :=
  ParameterKind.all.map (fun k => ⟨.parameterKind, k.constant, .str k.word, none, none⟩)
    ++ Visibility.all.map (fun v => ⟨.visibility, v.constant, .str v.word, none, none⟩)
    ++ FormalKind.all.zipIdx.map (fun (k, i) =>
      ⟨.parameterPassing, k.constant, .int i, some i, some k.words⟩)

/-- Adds the members of all enumerations. -/
def addChoiceMembers : Run Unit := do
  for m in choiceMembers do
    let _ ← makeOf m.enumeration ((m.number.map Body.int).getD .plain)

/-- The members of an enumeration with their numbers. -/
def membersOf (t : BuiltinType) : List (ChoiceMember × Obj) :=
  (choiceMembers.zipIdx.map fun (m, i) => (m, .entity i)).filter fun m => m.1.enumeration == t

/-- Fills the attributes of the members of an enumeration. -/
def fillMembers (t : BuiltinType) : Run Unit := do
  for ((m, x), i) in (membersOf t).zipIdx do
    putOwn x "_value_" (← plant m.value)
    if let some words := m.words then putOwn x "description" (.word words)
    putOwn x "_name_" (.word m.constant)
    putOwn x "__objclass__" (.type t)
    putOwn x "_sort_order_" (← newInt i)

/-- What an enumeration holds under a name of the first of all enumerations. -/
def ofFirstChoice (name : String) : Run Obj := do
  let x := (((← get).ownTable (.type .choice)).get? name).getD .none
  match (← get).body x with
  | .binder f => return f
  | _ => return x

/-- What an enumeration holds of its members and of how they are made. -/
def memberEntries (t : BuiltinType) : Run Table := do
  let ms := membersOf t
  let isNumber := t.order.contains .numberChoice
  let maker : Obj := .held (if isNumber then .int else .object) "__new__"
  let own (names : List String) : Run (List (String × Obj)) :=
    names.mapM fun n => do return (n, ← ofFirstChoice n)
  let shared ← if t == .choice then pure [] else own ["_generate_next_value_", "__new__"]
  let makers ← match t with
    | .parameterPassing => pure []
    | .choice => do pure [("_new_member_", ← ofFirstChoice "__new__")]
    | _ => pure [("_new_member_", maker)]
  let written ← match t with
    | .numberChoice => do
      pure ([("__format__", .held .int "__format__"), ("__str__", .held .int "__repr__")]
        ++ (← own ["__repr__"]))
    | .parameterPassing => pure [("__format__", .held .int "__format__")]
    | _ => pure []
  let names ← newList (ms.map fun m => .word m.1.constant)
  let map ← newDict (Table.ofTexts (ms.map fun m => (m.1.constant, m.2)))
  let byValue ← newDict []
  for (m, x) in ms do
    putItem byValue (← plant m.value) x
  return Table.ofTexts (shared ++ makers
    ++ [("_use_args_", .bool isNumber), ("_member_names_", names), ("_member_map_", map),
      ("_value2member_map_", byValue), ("_unhashable_values_", ← newList []),
      ("_member_type_", .type (if isNumber then .int else .object)),
      ("_value_repr_", if isNumber then .held .int "__repr__" else .none)]
    ++ written ++ ms.map fun m => (m.1.constant, m.2))

/-! ## Functions -/

/-- The name that a function has of itself. -/
def ownName (t : BuiltinType) (name : String) : String :=
  match t, name with
  | .randomGenerator, "_randbelow" => "_randbelow_with_getrandbits"
  | .parameterPassing, "_new_member_" => "__new__"
  | .definition, "__getstate__" | .parameter, "__getstate__" | .settings, "__getstate__" =>
    "_dataclass_getstate"
  | .definition, "__setstate__" | .parameter, "__setstate__" | .settings, "__setstate__" =>
    "_dataclass_setstate"
  | _, name => name

/-- The code that is nested in a function. -/
def nestedIn (t : BuiltinType) (name : String) : Run (List Obj) := do
  match t, name with
  | .stubMethod, "_make_function" => return [← stubCode]
  | .partialMethod, "_make_unbound_method" => return [← preparedCode]
  | _, _ => return []

/-- A function of a type of this library. -/
def libraryFunction (t : BuiltinType) (name : String) : Run Obj := do
  let own := ownName t name
  let path := if own.startsWith "_dataclass" then own else t.name ++ "." ++ own
  let code ← makeOf .code (.code ⟨.library t name, own, path, ← nestedIn t name, []⟩)
  let f ← newFunction code [] t.moduleName
  let shape := (t.shape? name).getD ⟨[], none⟩
  let defaults ← plantedDefaults (shape.formals.filter Formal.goesByPosition)
  let named ← plantedDefaults (shape.formals.filter fun p => p.kind == .keywordOnly)
  let notes := (shape.formals.filterMap fun p => p.note.map fun n => (p.name.text, Obj.word n))
  let notes ← match shape.result with
    | none => pure notes
    | some v => do pure (notes ++ [("return", ← plant v)])
  match (← get).function? f with
  | none => return f
  | some body => do
    let kept (xs : List Obj) : Run Obj := if xs.isEmpty then return .none else newTuple xs
    let table (t : List (String × Obj)) : Run Obj :=
      if t.isEmpty then return .none else newDict (Table.ofTexts t)
    let defaults ← kept (defaults.map (·.2))
    let namedDefaults ← table named
    let notes ← table notes
    let doc := (((t.note? name).bind Note.words).map Obj.word).getD .none
    putBody f (.function { body with defaults, namedDefaults, notes, doc })
    return f

/-! ## Types -/

/-- The slots of a type in the order in which it names them. -/
def BuiltinType.slotOrder : BuiltinType → List String
  | signature => ["_return_annotation", "_parameters"]
  | signatureParameter => ["_name", "_kind", "_default", "_annotation"]
  | boundArguments => ["arguments", "_signature", "__weakref__"]
  | t => if t.recordFields.isEmpty then t.fieldNames else t.recordFields

/-- A plain value that a type holds under a name. -/
def plainEntry (t : BuiltinType) (name : String) : Run Obj := do
  match name with
  | "__doc__" => return (t.doc?.map Obj.word).getD .none
  | "__module__" => return .word t.moduleName
  | "__slots__" => newTuple (t.slotOrder.map Obj.word)
  | "__match_args__" => newTuple (t.recordFields.map Obj.word)
  | "empty" => return noDefault
  | "VERSION" => newInt 3
  | "_parameter_cls" => return .type .signatureParameter
  | "_bound_arguments_cls" => return .type .boundArguments
  | _ => newDict []

/-- What a type of this library holds under a name, where the members of an enumeration and what
goes with them are given. -/
def entryOf (members : Table) (t : BuiltinType) (name : String) : Run Obj := do
  match t.attributeKind? name with
  | some .function => do
    let f ← libraryFunction t name
    if name == "__new__" then makeOf .staticMethod (.binder f) else return f
  | some .classFunction => do
    if name == "__class_getitem__" then makeOf .classMethod (.binder (.type .appliedType))
    else makeOf .classMethod (.binder (← libraryFunction t name))
  | some .accessor => do
    let getter ← libraryFunction t name
    let doc := (((← get).function? getter).map FunctionBody.doc).getD .none
    makeOf .property (.property ⟨getter, .none, .none, doc, true, some (.word name)⟩)
  | some .plain => plainEntry t name
  | some .member => return (members.get? name).getD .none
  | _ => return .held t name

/-- What a type of this library holds, for its names. -/
def entriesOf (members : Table) (t : BuiltinType) : List String → Run Table
  | [] => return []
  | n :: ns => do
    let x ← entryOf members t n
    return Table.textEntry n x :: (← entriesOf members t ns)

/-- What enumerations have for their members. -/
def choiceProperty (name : String) : Run Obj := do
  let p ← makeOf .choiceProperty .plain
  for (n, x) in [("fget", ← libraryFunction .choice name), ("fset", .none), ("fdel", .none),
      ("name", .word name), ("clsname", .word BuiltinType.choice.name)] do
    putOwn p n x
  return p

/-- The members of an enumeration and what goes with them. -/
def membersFor (t : BuiltinType) : Run Table := do
  match t with
  | .choice =>
    return Table.ofTexts [("name", ← choiceProperty "name"), ("value", ← choiceProperty "value")]
  | .parameterKind | .visibility | .parameterPassing | .numberChoice | .writtenChoice =>
    memberEntries t
  | .signatureParameter =>
    return Table.ofTexts (FormalKind.all.map fun k => (k.constant, ofPassing k))
  | _ => return []

/-- Puts in what the first enumeration holds of how members are made. -/
def addFirstChoice : Run Unit := do
  let entries ← memberEntries .choice
  changeOwn (.type .choice) fun own => own.map fun e =>
    match entries.find? fun m => m.hash == e.hash with
    | some m => m
    | none => e

/-- Puts in the way in which the passings of parameters are made under its second name. -/
def addMaker : Run Unit :=
  changeOwn (.type .parameterPassing) fun own =>
    own.put "__new_member__" ((own.get? "_new_member_").getD .none)

/-- The class of a type of this library. -/
def classOf (t : BuiltinType) : Run ClassBody := do
  let own ← entriesOf (← membersFor t) t t.ownNames
  let base := Obj.type (t.base?.getD .object)
  return { name := .word t.name, qualifiedName := .word t.name, bases := [base], base,
           order := t.order.map Obj.type, own, slots := [], opensDict := false,
           opensReferences := false,
           isAbstract := false }

/-- Adds the classes of types of this library. -/
def addTypes : List BuiltinType → Run Unit
  | [] => return ()
  | t :: ts => do
    let c ← classOf t
    modify fun w => { w with types := w.types ++ [(t, c)] }
    addTypes ts

/-- Adds all that is there before a session. -/
def addPrelude : Run Unit := do
  addChoiceMembers
  let changeable := BuiltinType.all.filter BuiltinType.isChangeable
  addTypes [.choice]
  addFirstChoice
  addTypes (changeable.filter (· != .choice))
  addMaker
  for t in [BuiltinType.parameterKind, .visibility, .parameterPassing] do
    fillMembers t

/-- The world in which nothing is. -/
def World.empty : World where
  heap := #[]
  types := []
  derived := []
  kept := []
  names := []
  codes := []
  log := []
  choices _ := 0
  used := 0

/-- The world before a session. -/
def World.initial : World :=
  match addPrelude (outermost fun _ _ => throw .tooDeep) .empty with
  | .ok _ w => w
  | .error _ w => w

end StubClass
