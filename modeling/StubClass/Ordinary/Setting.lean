import StubClass.Ordinary.Class

set_option autoImplicit false

/-! # Binding and setting by hand

What binds an attribute, or changes what stands behind it, can be called with an object like any
other function. The object has to be one that the attribute belongs to. -/

namespace StubClass

/-- The class that an attribute belongs to, and its name. -/
def World.belonging? (w : World) (held : Obj) : Option (Obj × String) :=
  match held, w.body held with
  | .held t name, _ => some (.type t, name)
  | _, .slot c name | _, .dictAccess c name => some (c, name)
  | _, _ => none

/-- Refuses an object that an attribute does not belong to. -/
def requireBelonging (held x : Obj) : Run Unit := do
  let w ← get
  match w.belonging? held with
  | none => return ()
  | some (c, name) =>
    if w.derives (w.typeOf x) c then return ()
    else
      throw (.badType ("descriptor '" ++ name ++ "' for '" ++ Text.clip 100 (w.titleOf c)
        ++ "' objects doesn't apply to a '" ++ Text.clip 100 (w.typeTitle x) ++ "' object"))

/-- Refuses a class that a function of a class does not belong to. -/
def requireClassBelonging (t : BuiltinType) (name : String) (owner : Obj) : Run Unit := do
  let w ← get
  if !w.isClass owner then
    throw (.badType ("descriptor '" ++ name ++ "' for type '" ++ Text.clip 100 t.title
      ++ "' needs a type, not a '" ++ Text.clip 100 (w.typeTitle owner) ++ "' as arg 2"))
  else if !w.derives owner (.type t) then
    throw (.badType ("descriptor '" ++ name ++ "' requires a subtype of '" ++ Text.clip 100 t.title
      ++ "' but received '" ++ Text.clip 100 (w.titleOf owner) ++ "'"))
  else return ()

/-- Binds what an object is, as an attribute of another one. -/
def bindFor (held x owner : Obj) : Run Obj := do
  let w ← get
  if x == .none && owner == .none then
    throw (.badType "__get__(None, None) is invalid")
  else
    let owner := if owner == .none then w.typeOf x else owner
    let receiver := if x == .none then none else some x
    match held, receiver with
    | .held t name, _ =>
      if t.attributeKind? name == some .classMethod then do
        requireClassBelonging t name owner
        bindKnown held receiver owner
      else do
        if let some x := receiver then requireBelonging held x
        bindKnown held receiver owner
    | held, some x => do
      requireBelonging held x
      bindKnown held receiver owner
    | held, none => bindKnown held receiver owner

/-- The text that a name is set to. -/
def requireText (name : String) (y : Option Obj) : Run Obj := do
  let w ← get
  match y.filter fun y => (w.text? y).isSome with
  | some y => return y
  | none => throw (.badType (name ++ " must be set to a string object"))

/-- Changes a field that a built-in type gives its objects, or removes it. -/
def writeField (t : BuiltinType) (name : String) (x : Obj) (y : Option Obj) : Run Unit := do
  let w ← get
  let refused := notWritable t name
  if t == .type then writeClassField x name y
  else if name == "__class__" then writeClass x y
  else if name == "__dict__" then writeDict x y
  else if t.isChangeable && t.attributeKind? name == some .field then writeSlot (.type t) name x y
  else
    match w.body x, name with
    | .function f, _ => writeFunctionField x f name y
    | .cell _, _ => putBody x (.cell y)
    | .producer p, "__name__" => do
      putBody x (.producer { p with name := ← requireText name y })
    | .producer p, "__qualname__" => do
      putBody x (.producer { p with qualifiedName := ← requireText name y })
    | .property p, "__doc__" => putBody x (.property { p with doc := y.getD .none })
    | .builtinMethod owner held r _, "__module__" =>
      putBody x (.builtinMethod owner held r (y.getD .none))
    | _, _ => throw refused

/-- Changes what a property stands for, or removes it. -/
def setProperty (p : PropertyBody) (x : Obj) (y : Option Obj) : Run Unit := do
  let f := if y.isSome then p.setter else p.deleter
  if f == .none then lacksAccessor p (if y.isSome then "setter" else "deleter") x
  else
    let _ ← apply f (x :: y.toList)

/-- Changes what an attribute stands for on an object, or removes it. -/
def setFor (held x : Obj) (y : Option Obj) : Run Unit := do
  requireBelonging held x
  match held, (← get).body held with
  | .held t name, _ => writeField t name x y
  | _, .slot c name => writeSlot c name x y
  | _, .dictAccess _ "__dict__" => writeDict x y
  | _, .dictAccess c name =>
    throw (.noAttribute ("attribute '" ++ name ++ "' of '" ++ Text.clip 100 ((← get).titleOf c)
      ++ "' objects is not writable"))
  | _, .property p => setProperty p x y
  | _, _ => return ()

end StubClass
