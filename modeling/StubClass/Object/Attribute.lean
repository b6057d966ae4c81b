import StubClass.Class.Order
import StubClass.Object.Field

set_option autoImplicit false

/-! # Attributes

Taking an attribute looks a name up in the object itself and along the classes, and binds what it
finds. On an object an accessor of its class comes first, then its own attributes, then what else
its class holds; a class has what its resolution order holds, after the accessors that every class
has. A class may name functions of its own that are asked instead, or when nothing is found. -/

namespace StubClass

/-! ## Binding -/

/-- Whether what a class holds decides over an attribute even if the object has its own. -/
def World.isAccessor (w : World) (held : Obj) : Bool :=
  (w.special? held "__set__").isSome || (w.special? held "__delete__").isSome

/-- The literal form of an object by the function of its class for it. -/
def literalBy (x : Obj) : Run String := do
  match (← get).special? x "__repr__" with
  | some f => do
    let r ← apply f [x]
    return ((← get).text? r).getD ""
  | none => return ""

/-- The refusal of a property that lacks an accessor. -/
def lacksAccessor {α : Type} (p : PropertyBody) (accessor : String) (x : Obj) : Run α := do
  let label ← match p.label with
    | some n => do pure ((← literalBy n) ++ " ")
    | none => pure ""
  let w ← get
  let owner ← literalBy (w.qualifiedNameOf (w.typeOf x))
  throw (.noAttribute ("property " ++ label ++ "of " ++ owner ++ " object has no " ++ accessor))

/-- Binds what is known how to bind to a receiver, or to none, for an owner. -/
def bindKnown (held : Obj) (receiver : Option Obj) (owner : Obj) : Run Obj := do
  let w ← get
  match held, w.body held, receiver with
  | .held t name, _, receiver =>
    match t.attributeKind? name, receiver with
    | some .method, some r | some .slot, some r => newBuiltinMethod t name r
    | some .computed, some r | some .field, some r => readField t name r
    | some .classMethod, _ => newBuiltinMethod t name owner
    | _, _ => return held
  | _, .function _, some r => newMethod held r
  | _, .binder inner, _ =>
    if w.isOf held .staticMethod then return inner
    else
      match w.special? inner "__get__" with
      | some getter => apply getter [inner, owner, owner]
      | none => newMethod inner owner
  | _, .property p, some r =>
    if p.getter == .none then lacksAccessor p "getter" r else apply p.getter [r]
  | _, .slot c name, some r => readSlot c name r
  | _, .dictAccess _ name, some r => if name == "__dict__" then dictOf r else return .none
  | _, _, _ => return held

/-- Binds what a class holds to a receiver, or to none, for an owner. -/
def bindHeld (held : Obj) (receiver : Option Obj) (owner : Obj) : Run Obj := do
  match (← get).special? held "__get__" with
  | none => return held
  | some (.held _ _) => bindKnown held receiver owner
  | some getter => apply getter [held, receiver.getD .none, owner]

/-- Calls what the class of an object holds for its own machinery. -/
def callHook (x held : Obj) (arguments : List Obj) : Run Obj := do
  match (← get).special? held "__get__" with
  | some (.held .methodAttribute _) | some (.held .slotAttribute _) | some (.held .function _) =>
    apply held (x :: arguments)
  | _ => do apply (← bindHeld held (some x) ((← get).typeOf x)) arguments

/-- Calls what the class of an object holds under a name, if it holds anything there. -/
def callSpecial? (x : Obj) (name : String) (arguments : List Obj) : Run (Option Obj) := do
  match (← get).special? x name with
  | some held => some <$> callHook x held arguments
  | none => return none

/-! ## Taking -/

/-- Whether what a class holds is asked for an attribute even if the object has its own. -/
def World.decides (w : World) (held : Obj) : Bool :=
  w.isAccessor held && (w.special? held "__get__").isSome

/-- Takes an attribute of a class in the way that all classes share. -/
def takeOfClass (c : Obj) (name : String) : Run Obj := do
  let w ← get
  let kind := w.typeOf c
  match preferred? w.decides (w.find? c name) (w.find? kind name) with
  | some (.inl held) => bindHeld held none c
  | some (.inr held) => bindHeld held (some c) kind
  | none =>
    throw (.noAttribute ("type object '" ++ Text.clip 50 (w.nameText c) ++ "' has no attribute '"
      ++ name ++ "'"))

/-- Takes an attribute of an object in the way that all objects share. -/
def takePlainly (x : Obj) (name : String) : Run Obj := do
  let w ← get
  let c := w.typeOf x
  match preferred? w.decides (w.ownAttribute? x name) (w.find? c name) with
  | some (.inl own) => return own
  | some (.inr held) => bindHeld held (some x) c
  | none => missing x name

/-- The attributes that a type with arguments has itself. -/
def appliedAttributes : List String :=
  ["__class__", "__origin__", "__args__", "__unpacked__", "__parameters__",
    "__typing_unpacked_tuple_args__", "__mro_entries__", "__reduce_ex__", "__reduce__", "__copy__",
    "__deepcopy__"]

/-- How many objects can be around one another for an attribute to be taken through them. -/
def methodDepth : Nat := 100

/-- Takes an attribute, through no more than so many objects. A method has the attributes of its
function, and a type with arguments those of the type. -/
def takeAt : (depth : Nat) → Obj → String → Run Obj
  | 0, _, _ => throw .tooDeep
  | depth + 1, x, name => do
    let w ← get
    let direct := match w.special? x "__getattribute__" with
      | some (.held .type _) => takeOfClass x name
      | some (.held .method _) =>
        match w.special? x name, w.body x with
        | none, .method f _ => takeAt depth f name
        | _, _ => takePlainly x name
      | some (.held .appliedType _) =>
        match w.body x with
        | .applied origin _ _ =>
          if appliedAttributes.contains name then takePlainly x name else takeAt depth origin name
        | _ => takePlainly x name
      | some (.held .typeUnion _) =>
        if name == "__module__" then takeOfClass (.type .typeUnion) name else takePlainly x name
      | some (.held _ _) | none => takePlainly x name
      | some hook => callHook x hook [.word name]
    match w.special? x "__getattr__" with
    | some hook =>
      tryCatch direct fun e => if e.isMissing then callHook x hook [.word name] else throw e
    | none => direct

/-- Takes an attribute. -/
def take (x : Obj) (name : String) : Run Obj :=
  takeAt methodDepth x name

/-- Takes an attribute, if there is one. -/
def take? (x : Obj) (name : String) : Run (Option Obj) :=
  optional (take x name)

/-- Takes an attribute and calls it. -/
def callAttribute (x : Obj) (name : String) (arguments : List Obj) : Run Obj := do
  apply (← take x name) arguments

/-! ## Looking without binding -/

/-- What stands in the place of the dictionary of the objects of a class, if it is not the one that
the class gives them. -/
def World.shadowedDict? (w : World) (c : Obj) : Option Obj :=
  (w.orderOf c).findSome? fun k =>
    (w.ownHeld? k "__dict__").filter fun x =>
      match x, w.body x with
      | .held t "__dict__", _ => k != .type t
      | _, .dictAccess owner "__dict__" => k != owner
      | _, _ => true

/-- What a class finds under a name without binding anything. -/
def World.findStatic? (w : World) (c : Obj) (name : String) : Option Obj :=
  (w.orderOf c).findSome? fun k =>
    if (w.shadowedDict? (w.typeOf k)).isSome then none else w.ownHeld? k name

/-- What an object keeps itself under a name, looked at without asking it. -/
def ownStatic? (x : Obj) (name : String) : Run (Option Obj) := do
  match ← optional (takePlainly x "__dict__") with
  | none => return none
  | some d => do
    let w ← get
    match w.table? d with
    | some t => return t.get? name
    | none =>
      throw (.badType ("descriptor 'get' for 'dict' objects doesn't apply to a '"
        ++ Text.clip 100 (w.typeTitle d) ++ "' object"))

/-- What an object finds under a name without binding anything: an accessor of its class, then its
own attribute, then what its class holds. -/
def findUnbound? (x : Obj) (name : String) : Run (Option Obj) := do
  let w ← get
  if w.isClass x then
    return (w.findStatic? x name).or (w.findStatic? (w.typeOf x) name)
  else
    let c := w.typeOf x
    let isShadowed := match w.shadowedDict? c with
      | none => false
      | some d => !w.isExactly d .fieldAttribute
    let own ← if isShadowed then pure none else ownStatic? x name
    let decides (held : Obj) : Bool :=
      let holds (n : String) : Bool := (w.findStatic? (w.typeOf held) n).isSome
      holds "__get__" && (holds "__set__" || holds "__delete__")
    return (preferred? decides own (w.findStatic? c name)).map (Sum.elim id id)

/-! ## Changing -/

/-- Changes what stands under a name of an accessor's object, or removes it. -/
def assignThrough (held x : Obj) (y : Option Obj) : Run Unit := do
  let name := if y.isSome then "__set__" else "__delete__"
  match ← callSpecial? held name (x :: y.toList) with
  | some _ => return ()
  | none => throw (.noAttribute name)

/-- Changes an attribute of a class in the way that all classes share, or removes it. -/
def assignOfClass (c : Obj) (name : String) (y : Option Obj) : Run Unit := do
  let w ← get
  match c, (w.special? c name).filter w.isAccessor with
  | .type t, held =>
    if !t.isChangeable then
      throw (.badType ("cannot set " ++ (Value.str name).literal ++ " attribute of immutable type '"
        ++ t.title ++ "'"))
    else
      match held with
      | some held => assignThrough held c y
      | none => assignOwn w
  | _, some held => assignThrough held c y
  | _, none => assignOwn w
where
  /-- Changes what the class holds itself. -/
  assignOwn (w : World) : Run Unit :=
    match y with
    | some y => changeOwn c fun t => t.put name y
    | none =>
      if ((w.class? c).any fun b => b.own.holds name) then changeOwn c fun t => t.erase name
      else
        throw (.noAttribute ("type object '" ++ Text.clip 50 (w.nameText c)
          ++ "' has no attribute '" ++ name ++ "'"))

/-- The failure to change an attribute that an object cannot have. -/
def noPlace {α : Type} (x : Obj) (name : String) : Run α := do
  throw (.noAttribute ("'" ++ Text.clip 100 ((← get).typeTitle x)
    ++ "' object has no attribute '" ++ name ++ "'"))

/-- Changes an attribute in the way that all objects share, or removes it. -/
def assignPlainly (x : Obj) (name : String) (y : Option Obj) : Run Unit := do
  let w ← get
  let held := w.special? x name
  match held.filter w.isAccessor with
  | some held => assignThrough held x y
  | none =>
    if w.hasDict (w.typeOf x) then
      match y with
      | some y => putOwn x name y
      | none =>
        if (w.ownAttribute? x name).isSome then do
          changeTable (← dictOf x) fun t => t.erase name
        else noPlace x name
    else if held.isSome then
      throw (.noAttribute ("'" ++ Text.clip 50 (w.typeTitle x) ++ "' object attribute '" ++ name
        ++ "' is read-only"))
    else noPlace x name

/-- Changes an attribute, or removes it when there is nothing to put there. -/
def assign (x : Obj) (name : String) (y : Option Obj) : Run Unit := do
  match (← get).special? x (if y.isSome then "__setattr__" else "__delattr__") with
  | some (.held .type _) => assignOfClass x name y
  | some (.held _ _) | none => assignPlainly x name y
  | some hook => do
    let _ ← callHook x hook (.word name :: y.toList)

end StubClass
