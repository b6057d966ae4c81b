import StubClass.Object.Room

set_option autoImplicit false

/-! # Fields

What objects have by their make: the name and bases of a class, the code of a function, the receiver
of a method, and the slots and dictionaries that a class gives its objects. A few fields can be
given something else; the rest refuses. -/

namespace StubClass

/-! ## Dictionaries of attributes -/

/-- The dictionary of the attributes of an object. -/
def dictOf (x : Obj) : Run Obj := do
  match ((← get).entity? x).bind Entity.dict with
  | some d => return d
  | none =>
    let d ← newDict []
    change x fun e => { e with dict := some d }
    return d

/-- The attributes that an object keeps itself. -/
def World.attributes (w : World) (x : Obj) : Table :=
  (((w.entity? x).bind Entity.dict).bind w.table?).getD []

/-- The attribute that an object keeps itself under a name. -/
def World.ownAttribute? (w : World) (x : Obj) (name : String) : Option Obj :=
  (w.attributes x).get? name

/-- Changes a dictionary. -/
def changeTable (d : Obj) (f : Table → Table) : Run Unit :=
  change d fun e =>
    match e.body with
    | .dict t => e.withBody (.dict (f t))
    | _ => e

/-- Gives an object an attribute of its own. -/
def putOwn (x : Obj) (name : String) (y : Obj) : Run Unit := do
  changeTable (← dictOf x) fun t => t.put name y

/-! ## Slots -/

/-- What stands in a slot of an object. -/
def World.slot? (w : World) (owner : Obj) (name : String) (x : Obj) : Option Obj :=
  (w.entity? x).bind fun e => e.slots.lookup (owner, name)

/-- Puts something into a slot of an object. -/
def putSlot (owner : Obj) (name : String) (x y : Obj) : Run Unit :=
  change x fun e =>
    { e with slots := ((owner, name), y) :: e.slots.filter fun s => s.1 != (owner, name) }

/-- The failure to find an attribute of an object. -/
def missing {α : Type} (x : Obj) (name : String) : Run α := do
  throw (.noAttribute ("'" ++ Text.clip 50 ((← get).typeTitle x) ++ "' object has no attribute '"
    ++ name ++ "'"))

/-- What stands in a slot of an object, which has to be filled. -/
def readSlot (owner : Obj) (name : String) (x : Obj) : Run Obj := do
  match (← get).slot? owner name x with
  | some y => return y
  | none => missing x name

/-- Fills a slot of an object or empties it. -/
def writeSlot (owner : Obj) (name : String) (x : Obj) (y : Option Obj) : Run Unit := do
  match y, (← get).slot? owner name x with
  | some y, _ => putSlot owner name x y
  | none, some _ =>
    change x fun e => { e with slots := e.slots.filter fun s => s.1 != (owner, name) }
  | none, none => throw (.noAttribute name)

/-! ## Reading -/

/-- What stands under a name of a class, as an attribute of the class. -/
def readOwn (c : Obj) (name : String) : Run (Option Obj) := do
  let w ← get
  match (w.ownTable c).get? name with
  | none => return none
  | some x =>
    match w.special? x "__get__" with
    | some getter => some <$> apply getter [x, .none, c]
    | none => return some x

/-- A text that there may be none of, made anew. -/
def newOption : Option String → Run Obj
  | some text => newTextApart text
  | none => return .none

/-- A field of a class. -/
def readClassField (c : Obj) (name : String) : Run Obj := do
  let w ← get
  let isFixed := (w.class? c).isNone
  match name with
  | "__name__" | "__qualname__" =>
    match c with
    | .type t =>
      if t.isStatic then newTextApart t.name
      else return if name == "__name__" then w.nameOf c else w.qualifiedNameOf c
    | c => return if name == "__name__" then w.nameOf c else w.qualifiedNameOf c
  | "__module__" =>
    match if isFixed then (w.moduleOf? c).map Obj.word else (w.ownTable c).get? name with
    | some x => return x
    | none => throw (.noAttribute name)
  | "__doc__" =>
    match c with
    | .type t =>
      if t.isStatic && t.doc?.isSome then newOption t.doc?
      else return (← readOwn c name).getD .none
    | c => return (← readOwn c name).getD .none
  | "__bases__" => keeping c name (newTuple (w.basesOf c))
  | "__mro__" => keeping c name (newTuple (w.orderOf c))
  | "__base__" =>
    return match w.class? c, c with
      | some b, _ => b.base
      | none, .type t => (t.base?.map Obj.type).getD .none
      | none, _ => .none
  | "__annotations__" =>
    match ← if c == .type .type then pure none else readOwn c name with
    | some x => return x
    | none =>
      if isFixed then
        throw (.noAttribute ("type object '" ++ w.titleOf c ++ "' has no attribute '" ++ name
          ++ "'"))
      else do
        let d ← newDict []
        changeOwn c fun t => t.put name d
        return d
  | "__abstractmethods__" =>
    match if c == .type .type then none else (w.ownTable c).get? name with
    | some x => return x
    | none => throw (.noAttribute name)
  | "__dict__" => makeOf .readOnlyDict (.view c)
  | "__text_signature__" =>
    match c with
    | .type t => newOption t.signature?
    | _ => return .none
  | "__basicsize__" => newInt (w.roomOf c).size
  | "__itemsize__" => newInt (w.roomOf c).part
  | "__dictoffset__" => newInt (w.roomOf c).dictPlace
  | "__weakrefoffset__" => newInt (w.roomOf c).referencePlace
  | _ => newInt (w.roomOf c).traits

/-- A field of a function. -/
def readFunctionField (x : Obj) (f : FunctionBody) (name : String) : Run Obj := do
  match name with
  | "__name__" => return f.name
  | "__qualname__" => return f.qualifiedName
  | "__doc__" => return f.doc
  | "__module__" => return f.moduleName
  | "__defaults__" => return f.defaults
  | "__kwdefaults__" => return f.namedDefaults
  | "__code__" => return f.code
  | "__annotations__" =>
    if f.notes == .none then do
      let d ← newDict []
      putBody x (.function { f with notes := d })
      return d
    else return f.notes
  | "__globals__" | "__builtins__" => keeping x name (newDict [])
  | "__closure__" =>
    if f.closure.isEmpty then return .none else keeping x name (newTuple f.closure)
  | _ => return .none

/-- A field of a piece of code. -/
def readCodeField (x : Obj) (c : CodeBody) (name : String) : Run Obj := do
  match name with
  | "co_name" => return .word c.name
  | "co_qualname" => return .word c.qualifiedName
  | "co_consts" => keeping x name (newTuple (.none :: c.nested))
  | "co_freevars" => keeping x name (newTuple (c.freeNames.map Obj.word))
  | "co_names" | "co_cellvars" | "co_varnames" => newTuple []
  | "co_filename" => return .word ""
  | "co_code" | "_co_code_adaptive" | "co_lnotab" | "co_linetable" | "co_exceptiontable" =>
    newBytes []
  | _ => newInt 0

/-- The module that the free functions are found in. -/
def standardLibrary : Run Obj :=
  keeping (.type .module) BuiltinType.standardModule (makeOf .module .plain)

/-- Whether one of some functions says that it is abstract. -/
def saysAbstract : List Obj → Run Obj
  | [] => return .bool false
  | f :: fs => do
    let name := "__isabstractmethod__"
    let said ← apply (.held .module "getattr") [f, .word name, .bool false]
    if (← apply (.type .bool) [said]) == .bool true then return .bool true else saysAbstract fs

/-- A field of what a built-in type holds, or of a method of it. -/
def readHeldField (t : BuiltinType) (held name : String) : Run Obj := do
  match name with
  | "__name__" => return .word held
  | "__qualname__" => return .word (if t == .module then held else t.name ++ "." ++ held)
  | "__objclass__" => return .type t
  | "__doc__" => newOption ((t.note? held).bind Note.words)
  | "__text_signature__" => newOption ((t.note? held).bind Note.signature)
  | "__self__" => if t == .module then standardLibrary else return .type t
  | "__module__" => return if t == .module then .word BuiltinType.standardModule else .none
  | _ => return .none

/-- A field of a number: its parts as a fraction and as a complex one. -/
def readNumberField (x : Obj) (b : Body) (name : String) : Run Obj := do
  let w ← get
  match b, name with
  | .float y, "real" => if w.isExactly x .float then return x else newFloat y
  | .float _, _ => newFloat 0.0
  | .complex re im, _ => newFloat (if name == "real" then re else im)
  | .int n, "real" | .int n, "numerator" => if w.isExactly x .int then return x else newInt n
  | _, "denominator" => newInt 1
  | _, _ => newInt 0

/-- What is in a cell. -/
def cellContent (content : Option Obj) : Run Obj :=
  match content with
  | some y => return y
  | none => throw (.badValue "Cell is empty")

/-- A field that a built-in type gives its objects. -/
def readField (t : BuiltinType) (name : String) (x : Obj) : Run Obj := do
  let w ← get
  if name == "__class__" then return w.typeOf x
  else if t == .type then readClassField x name
  else if name == "__dict__" then dictOf x
  else if t.isChangeable && t.attributeKind? name == some .field then readSlot (.type t) name x
  else
    match w.body x with
    | .function f => readFunctionField x f name
    | .code c => readCodeField x c name
    | .method f r =>
      match name with
      | "__self__" => return r
      | "__func__" => return f
      | _ =>
        match w.function? f with
        | some f => return f.doc
        | none => return .none
    | .builtinMethod owner held r m =>
      match name with
      | "__self__" => return r
      | "__module__" => return m
      | "__name__" => newTextApart held
      | "__qualname__" =>
        if w.isExactly x .slotMethod then return .word (owner.name ++ "." ++ held)
        else
          newTextApart ((if w.isClass r then w.qualifiedText r else w.qualifiedText (w.typeOf r))
            ++ "." ++ held)
      | _ => readHeldField owner held name
    | .cell content => cellContent content
    | .producer p =>
      match name with
      | "__name__" => return p.name
      | "__qualname__" => return p.qualifiedName
      | "gi_code" => return p.code
      | "gi_running" => return .bool false
      | "gi_suspended" => return .bool (p.progress == .suspended)
      | _ => return .none
    | .applied origin arguments isSpread =>
      match name with
      | "__origin__" => return origin
      | "__args__" => return arguments
      | "__unpacked__" => return .bool isSpread
      | "__parameters__" => keeping x name (newTuple [])
      | _ => return if isSpread && origin == .type .tuple then arguments else .none
    | .union types => if name == "__args__" then return types else keeping x name (newTuple [])
    | .binder inner => if name == "__isabstractmethod__" then saysAbstract [inner] else return inner
    | .property p =>
      match name with
      | "fget" => return p.getter
      | "fset" => return p.setter
      | "fdel" => return p.deleter
      | "__doc__" => return p.doc
      | _ => saysAbstract ([p.getter, p.setter, p.deleter].filter (· != .none))
    | .partialCall f positional keywords =>
      match name with
      | "func" => return f
      | "args" => keeping x name (newTuple positional)
      | "keywords" => return keywords
      | _ => newInt 0
    | .view of =>
      match w.body of with
      | .view c => makeOf .readOnlyDict (.view c)
      | _ => makeOf .readOnlyDict (.readOnly of)
    | .slot owner held | .dictAccess owner held =>
      match name with
      | "__objclass__" => return owner
      | "__name__" => return .word held
      | "__qualname__" => return .word (w.qualifiedText owner ++ "." ++ held)
      | "__doc__" => newOption ((Manual.find? Manual.openedNotes held).bind Note.words)
      | _ => return .none
    | b =>
      match x with
      | .held owner held => readHeldField owner held name
      | _ =>
        if [BuiltinType.int, .float, .complex].contains t then readNumberField x b name
        else return .none

/-! ## Writing -/

/-- The refusal to give something to what is only read. -/
def notWritable (t : BuiltinType) (name : String) : Failure :=
  match t.attributeKind? name with
  | some .field => .noAttribute "readonly attribute"
  | _ =>
    .noAttribute ("attribute '" ++ name ++ "' of '" ++ t.title ++ "' objects is not writable")

/-- Gives a class another name. -/
def writeClassName (c : Obj) (name : String) (y : Obj) : Run Unit := do
  let w ← get
  match w.text? y with
  | none =>
    throw (.badType ("can only assign string to " ++ w.nameText c ++ "." ++ name ++ ", not '"
      ++ w.typeTitle y ++ "'"))
  | some text =>
    if name == "__qualname__" then changeClass c fun b => { b with qualifiedName := y }
    else if text.toList.contains '\x00' then
      throw (.badValue "type name must not contain null characters")
    else changeClass c fun b => { b with name := y }

/-- The dictionary that is given to an object for its attributes. -/
def requireDict (y : Obj) : Run Obj := do
  let w ← get
  if (w.table? y).isSome then return y
  else
    throw (.badType ("__dict__ must be set to a dictionary, not a '"
      ++ Text.clip 200 (w.typeTitle y) ++ "'"))

/-- Gives an object another dictionary for its attributes, or takes it away. -/
def writeDict (x : Obj) (y : Option Obj) : Run Unit := do
  let isKept := match (← get).body x with
    | .function _ | .binder _ | .partialCall _ _ _ => true
    | _ => false
  match y with
  | some y => do
    let d ← requireDict y
    change x fun e => { e with dict := some d }
  | none =>
    if isKept then throw (.badType "cannot delete __dict__")
    else change x fun e => { e with dict := none }

/-- Gives a function another code, which has to be closed over as much. -/
def writeCode (x : Obj) (f : FunctionBody) (y : Option Obj) : Run Unit := do
  let w ← get
  match y.bind w.code? with
  | none => throw (.badType "__code__ must be set to a code object")
  | some c =>
    if c.freeNames.length == f.closure.length then
      putBody x (.function { f with code := y.getD f.code })
    else
      throw (.badValue ((w.text? f.name).getD "" ++ "() requires a code object with "
        ++ (Value.int f.closure.length).literal ++ " free vars, not "
        ++ (Value.int c.freeNames.length).literal))

/-- Gives a function another field. -/
def writeFunctionField (x : Obj) (f : FunctionBody) (name : String) (y : Option Obj) :
    Run Unit := do
  let w ← get
  let isFit (b : Body → Bool) : Bool :=
    match y with
    | none | some .none => true
    | some y => b (w.body y)
  let isDict : Body → Bool
    | .dict _ => true
    | _ => false
  let isTuple : Body → Bool
    | .tuple _ => true
    | _ => false
  let z := y.getD .none
  let put (g : FunctionBody) : Run Unit := putBody x (.function g)
  match name with
  | "__name__" | "__qualname__" =>
    if (y.bind w.text?).isNone then
      throw (.badType (name ++ " must be set to a string object"))
    else put (if name == "__name__" then { f with name := z } else { f with qualifiedName := z })
  | "__doc__" => put { f with doc := z }
  | "__module__" => put { f with moduleName := z }
  | "__defaults__" =>
    if isFit isTuple then put { f with defaults := z }
    else throw (.badType (name ++ " must be set to a tuple object"))
  | "__kwdefaults__" =>
    if isFit isDict then put { f with namedDefaults := z }
    else throw (.badType (name ++ " must be set to a dict object"))
  | "__annotations__" =>
    if isFit isDict then put { f with notes := z }
    else throw (.badType (name ++ " must be set to a dict object"))
  | "__code__" => writeCode x f y
  | _ => throw (notWritable .function name)

end StubClass
