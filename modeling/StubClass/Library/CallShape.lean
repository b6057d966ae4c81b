import StubClass.Builtin.Shape
import StubClass.Library.Function
import StubClass.Library.Signature

set_option autoImplicit false

/-! # What a callable takes

The signature of any object that can be called. A method takes what its function takes but for the
first; what wraps another callable takes what that one takes, unless it has a signature of its own;
a class takes what its functions for making objects take, and any other object what its function
for calls takes. Some of what is built in does not tell. -/

namespace StubClass

/-! ## Functions -/

/-- Parameters of a signature, with the defaults and notes that are known under their names. -/
def formalParameters (defaults : List (String × Obj)) (notes : Table) :
    List Formal → Run (List Obj)
  | [] => return []
  | f :: fs => do
    let name := f.name.text
    let p ← newSignatureParameter (.word name) f.kind ((defaults.lookup name).getD noDefault)
      ((notes.get? name).getD noDefault)
    return p :: (← formalParameters defaults notes fs)

/-- The signature of a function, or of what looks like one. -/
def signatureOfFunction (f : Obj) : Run Obj := do
  let code ← take f "__code__"
  let noted := (← take? f "__annotations__").getD .none
  let w ← get
  let notes ← match w.table? noted with
    | some t => pure t
    | none =>
      if noted == .none then pure []
      else throw (.badValue (← quoting "" f ".__annotations__ is neither a dict nor None"))
  let defaults ← take f "__defaults__"
  let named ← take f "__kwdefaults__"
  let formals := ((w.code? code).map fun c => c.kind.shape.formals).getD []
  let known := w.positionalDefaults formals defaults ++ w.namedDefaults named
  newSignature (← formalParameters known notes formals) ((notes.get? "return").getD noDefault)

/-- Whether an object has all that a function has. -/
def looksLikeFunction (x : Obj) : Run Bool := do
  let w ← get
  if !w.isCallable x || w.isClass x then return false
  else
    let part (name : String) : Run (Option Obj) := take? x name
    let isMissingOr (y : Option Obj) (t : BuiltinType) (orAbsent : Bool) : Run Bool := do
      match y with
      | none => return orAbsent
      | some .none => return true
      | some y => isA y t
    let name := (← part "__name__").getD .none
    let code := (← part "__code__").getD .none
    let defaults ← part "__defaults__"
    let named ← part "__kwdefaults__"
    let notes ← part "__annotations__"
    isA code .code <&&> isA name .str <&&> isMissingOr defaults .tuple false
      <&&> isMissingOr named .dict false <&&> isMissingOr notes .dict true

/-! ## Wrappers -/

/-- The end of the chain of what wraps one another: it stops at a signature and at a method, and
must not come back to where it was; `fuel` bounds its length. -/
def unwrapped (first : Obj) : (fuel : Nat) → (seen : List Obj) → Obj → Run Obj
  | 0, _, _ => do throw (.badValue (← quoting "wrapper loop when unwrapping " first ""))
  | fuel + 1, seen, x => do
    let w ← get
    if w.isClass x then return x
    else
      match ← take? x "__wrapped__" with
      | none => return x
      | some _ => do
        if ← (Option.isSome <$> take? x "__signature__") <||> isA x .method then return x
        else
          let next ← take x "__wrapped__"
          let w ← get
          if seen.any (w.identical next) then
            throw (.badValue (← quoting "wrapper loop when unwrapping " first ""))
          else unwrapped first fuel (next :: seen) next

/-- The signature of a method by that of its function. -/
def boundSignature (s : Obj) : Run Obj := do
  match ← parametersOf s with
  | [] => throw (.badValue "invalid method signature")
  | p :: ps => do
    if ← isKindAmong (← take p "kind") [.furtherKeyword, .keywordOnly] then
      throw (.badValue "invalid method signature")
    else if ← isOfKind p .furtherPositional then withParameters s (p :: ps)
    else withParameters s ps

/-- The parameters that are left when a call was prepared: those that were given by position are
gone, and from the first one on that was given by keyword all go by keyword. -/
def preparedParameters (bound : Obj) (named : Table) : (onlyNamed : Bool) → List Obj →
    Run (List Obj × List Obj)
  | _, [] => return ([], [])
  | onlyNamed, p :: ps => do
    let name ← take p "name"
    let given ← valueUnder? ((← get).tableOf bound) name
    let isPositional ← isOfKind p .positional
    let isNamed ← isOfKind p .keywordOnly
    let replaced (parts : List (String × Obj)) : Run Obj := do
      call (← take p "replace") ⟨[], parts.map fun k => (.word k.1, k.2)⟩
    let drop : Run (List Obj × List Obj) := preparedParameters bound named onlyNamed ps
    match given with
    | some y =>
      if ← isOfKind p .positionalOnly then drop
      else if isPositional then
        if (← valueUnder? named name).isSome then
          let p ← replaced [("default", y), ("kind", ofPassing .keywordOnly)]
          let (front, back) ← preparedParameters bound named true ps
          return (front, p :: back)
        else drop
      else if isNamed then
        let p ← replaced [("default", y)]
        let (front, back) ← preparedParameters bound named onlyNamed ps
        return if onlyNamed then (front, p :: back) else (p :: front, back)
      else keep onlyNamed p ps isPositional isNamed replaced
    | none => keep onlyNamed p ps isPositional isNamed replaced
where
  /-- Keeps a parameter that was not given. -/
  keep (onlyNamed : Bool) (p : Obj) (ps : List Obj) (isPositional isNamed : Bool)
      (replaced : List (String × Obj) → Run Obj) : Run (List Obj × List Obj) := do
    let rest := preparedParameters bound named onlyNamed ps
    if !onlyNamed then
      let (front, back) ← rest
      return (p :: front, back)
    else if isPositional then
      let p ← replaced [("kind", ofPassing .keywordOnly)]
      let (front, back) ← rest
      return (front, p :: back)
    else if ← pure isNamed <||> isOfKind p .furtherKeyword then
      let (front, back) ← rest
      return (front, p :: back)
    else rest

/-- The signature of a prepared call by that of its function, with more arguments in front. -/
def preparedSignature (s prepared : Obj) (extra : List Obj) : Run Obj := do
  let positional ← elementsOf (← take prepared "args")
  let keywords ← take prepared "keywords"
  let named := (← get).tableOf keywords
  let f ← take s "bind_partial"
  let b ← tryCatch (call f ⟨extra ++ positional, named.map fun e => (e.key, e.value)⟩) fun e => do
    if e.isA .badType then
      let text ← quoting "partial object " prepared " has incorrect arguments"
      throw { kind := .ordinary .badValue, message := text, cause := some (e.kind, e.message) }
    else throw e
  let bound ← take b "arguments"
  let (front, back) ← preparedParameters bound named false (← parametersOf s)
  withParameters s (front ++ back)

/-! ## What is built in -/

/-- Planted defaults of formal parameters. -/
def plantedDefaults : List Formal → Run (List (String × Obj))
  | [] => return []
  | f :: fs => do
    match f.default with
    | none => plantedDefaults fs
    | some v => do
      let x ← plant v
      return (f.name.text, x) :: (← plantedDefaults fs)

/-- The signature of formal parameters with their own defaults. -/
def signatureOfFormals (formals : List Formal) : Run Obj := do
  newSignature (← formalParameters (← plantedDefaults formals) [] formals) noDefault

/-- The signature of what a built-in type holds under a name. -/
def builtinSignature (x : Obj) (t : BuiltinType) (name : String) (isBound : Bool) : Run Obj := do
  if t.isMistold name then throw (.badValue (← quoting "" x " builtin has invalid signature"))
  else
    match t.formals? name with
    | some formals =>
      signatureOfFormals (if isBound || t.attributeKind? name == some .free then formals
        else .positionalOnly "self" :: formals)
    | none => throw (.badValue (← quoting "no signature found for builtin " x ""))

/-- Whether an object is taken for one that is built in. -/
def isBuiltin (x : Obj) : Run Bool := do
  let w ← get
  let isSort := [BuiltinType.builtinMethod, .slotMethod, .slotAttribute, .classAttribute].any
    fun t => w.isExactly x t
  if isSort || x == .type .type || x == .type .object then return true
  else if ← pure (w.isClass x) <||> isA x .method <||> isA x .function then return false
  else
    let c := w.typeOf x
    (Option.isSome <$> take? c "__get__") <&&> (Option.isNone <$> take? c "__set__")

/-- The signature of an object that is built in. -/
def signatureOfBuiltin (x : Obj) : Run Obj := do
  match x, (← get).body x with
  | .held t name, _ => builtinSignature x t name false
  | _, .builtinMethod t name r _ => builtinSignature x t name (r != .none)
  | .type .object, _ => signatureOfFormals []
  | _, _ => throw (.badValue (← quoting "no signature found for builtin " x ""))

/-! ## Classes -/

/-- Binds what a class holds to an object, in the way of its own class. -/
def boundFor (held x : Obj) : Run Obj := do
  let w ← get
  if w.isClass held then return held
  else
    match ← take? (w.typeOf held) "__get__" with
    | none => return held
    | some f => apply f [held, x, w.typeOf x]

/-- A function of a class under a name that is not built in. -/
def ownMaker? (c : Obj) (name : String) : Run (Option Obj) := do
  let held ← if name == "__new__" then take? c name else findUnbound? c name
  let w ← get
  let isBuiltIn (x : Obj) : Bool :=
    [BuiltinType.builtinMethod, .slotMethod, .slotAttribute, .classAttribute].any
      fun t => w.isOf x t
  match held with
  | none => return none
  | some held =>
    if held == .none || isBuiltIn held then return none
    else if name == "__new__" then return some held
    else some <$> boundFor held c

/-- The first of the functions for making objects along the order of a class. -/
def maker? (c : Obj) : Run (Option (Bool × Obj)) := do
  let new ← ownMaker? c "__new__"
  let init ← ownMaker? c "__init__"
  let w ← get
  let order := (w.parts? (← take c "__mro__")).getD []
  return order.findSome? fun k =>
    match new, init with
    | some f, init =>
      if (w.ownHeld? k "__new__").isSome then some (true, f)
      else if (w.ownHeld? k "__init__").isSome then init.map fun f => (false, f)
      else none
    | none, some f => if (w.ownHeld? k "__init__").isSome then some (false, f) else none
    | none, none => none

/-- The signature of a class that has no functions of its own for making objects. -/
def signatureOfCreation (c : Obj) : Run Obj := do
  let w ← get
  let told := ((w.orderOf c).dropLast).findSome? fun k =>
    match k with
    | .type t => t.creation?
    | _ => none
  match told with
  | some formals => signatureOfFormals formals
  | none =>
    if w.derives c (.type .type) then
      throw (.badValue (← quoting "callable " c " is not supported by signature"))
    else if w.doesAs c .object "__init__" && w.doesAs c .object "__new__" then
      signatureOfFormals []
    else throw (.badValue (← quoting "no signature found for builtin type " c ""))

/-! ## Callables -/

/-- How deep the signature of a callable is looked for. -/
def signatureDepth : Nat := 200

/-- The signature of a callable, looked for no deeper than a number of steps. -/
def signatureAt : (depth : Nat) → Obj → Run Obj
  | 0, _ => throw .tooDeep
  | depth + 1, x => do
    if !(← get).isCallable x then
      throw (.badType (← quoting "" x " is not a callable object"))
    else if ← isA x .method then
      boundSignature (← signatureAt depth (← take x "__func__"))
    else
      let x ← unwrapped x 1000 [x] x
      if ← isA x .method then signatureAt depth x
      else
        match ← take? x "__signature__" with
        | some .none | none => prepared depth x
        | some s =>
          if ← isA s .signature then return s
          else
            throw (.badType (← quoting "unexpected object " s " in __signature__ attribute"))
where
  /-- The signature of what was made for a method that is prepared in part. -/
  prepared (depth : Nat) (x : Obj) : Run Obj := do
    let p := (← take? x "_partialmethod").getD .none
    if ← isA p .partialMethod then
      let s ← signatureAt depth (← take p "func")
      let rest ← preparedSignature s p [.none]
      match ← parametersOf s with
      | first :: _ =>
        if ← isOfKind first .furtherPositional then return rest
        else withParameters rest (first :: (← parametersOf rest))
      | [] => throw (.ordinary .badIndex "tuple index out of range")
    else plain depth x
  /-- The signature of an object by its kind. -/
  plain (depth : Nat) (x : Obj) : Run Obj := do
    if ← isA x .function <||> looksLikeFunction x then signatureOfFunction x
    else if ← isBuiltin x then signatureOfBuiltin x
    else if ← isA x .partialCall then
      preparedSignature (← signatureAt depth (← take x "func")) x []
    else
      let w ← get
      if ← isA x .type then
        match ← ownMaker? (w.typeOf x) "__call__" with
        | some f => signatureAt depth f
        | none =>
          match ← maker? x with
          | some (isNew, f) => do
            let s ← signatureAt depth f
            if isNew then boundSignature s else return s
          | none => signatureOfCreation x
      else
        match ← findUnbound? (w.typeOf x) "__call__" with
        | some held => do signatureAt depth (← boundFor held x)
        | none => throw (.badValue (← quoting "callable " x " is not supported by signature"))

/-- The signature of a callable. -/
def signatureOf (x : Obj) : Run Obj :=
  signatureAt signatureDepth x

end StubClass
