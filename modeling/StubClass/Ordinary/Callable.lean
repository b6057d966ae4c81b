import StubClass.Ordinary.Setting

set_option autoImplicit false

/-! # Callables

What functions, methods, properties, prepared calls and pieces of code do besides being called. Two
methods are equal when their functions are and their receivers are one; two pieces of code are equal
when they say the same. -/

namespace StubClass

/-! ## Equality -/

/-- Whether two pieces of code say the same, as far as a depth. -/
def sameCode (w : World) : (depth : Nat) → Obj → Obj → Bool
  | 0, x, y => x == y
  | depth + 1, x, y =>
    x == y ||
      match w.code? x, w.code? y with
      | some c, some d =>
        c.kind == d.kind && c.name == d.name && c.qualifiedName == d.qualifiedName
          && c.freeNames == d.freeNames && c.nested.length == d.nested.length
          && (c.nested.zip d.nested).all fun p => sameCode w depth p.1 p.2
      | _, _ => false

/-- How deep code is nested that is compared. -/
def codeDepth : Nat := 100

/-- The type and the name that a built-in function or method is held under, with its receiver, if it
has one. -/
def World.heldParts? (w : World) (x : Obj) : Option (BuiltinType × String × Option Obj) :=
  match x, w.body x with
  | .held t name, _ => if w.typeOf x == .type .builtinMethod then some (t, name, none) else none
  | _, .builtinMethod t name r _ => some (t, name, some r)
  | _, _ => none

/-- Whether two callables are equal, if they are of one sort. -/
def callableEqual? (x y : Obj) : Run (Option Bool) := do
  let w ← get
  match w.body x, w.body y with
  | .method f r, .method g s =>
    if ← isSame f g then return some (w.identical r s) else return some false
  | .code _, .code _ => return some (sameCode w codeDepth x y)
  | _, _ =>
    match w.heldParts? x, w.heldParts? y with
    | some (t, name, r), some (u, other, s) =>
      let isSameReceiver := match r, s with
        | some r, some s => w.identical r s
        | r, s => r.isNone && s.isNone
      if w.typeOf x != w.typeOf y then return none
      else return some (t == u && name == other && isSameReceiver)
    | _, _ => return none

/-- The answer of a comparison of cells: that of what is in them, and nothing comes before
something. -/
def cellComparison (c : Comparison) (x y : Option Obj) : Run Obj := do
  match x, y with
  | some x, some y => compare c x y
  | x, y => return .bool (c.ofOrdering (Ord.compare x.isSome y.isSome))

/-- The answer of a comparison of callables. -/
def callableComparison (c : Comparison) (x y : Obj) : Run Obj := do
  let w ← get
  if let (.cell s, .cell t) := (w.body x, w.body y) then return (← cellComparison c s t)
  match c, ← callableEqual? x y with
  | .eq, some b => return .bool b
  | .ne, some b => return .bool !b
  | _, _ => return .unknownOperand

/-! ## Properties -/

/-- A property with another accessor. -/
def withAccessor (name : String) (x f : Obj) : Run Obj := do
  let w ← get
  match w.body x with
  | .property p => do
    let pick (n : String) (old : Obj) : Obj := if name == n && f != .none then f else old
    let getter := pick "getter" p.getter
    let doc := if p.docIsOfGetter && getter != .none then .none else p.doc
    let y ← apply (w.typeOf x) [getter, pick "setter" p.setter, pick "deleter" p.deleter, doc]
    match (← get).body y with
    | .property q => putBody y (.property { q with label := p.label })
    | _ => pure ()
    return y
  | _ => return .none

/-- A method of properties. -/
def propertyMethod (name function : String) (x : Obj) (a : Operands) : Run Obj := do
  match name with
  | "__set_name__" => do
    match ← byPosition function a with
    | [_, label] =>
      match (← get).body x with
      | .property p => putBody x (.property { p with label := some label })
      | _ => pure ()
      return .none
    | xs =>
      throw (.badType ("__set_name__() takes 2 positional arguments but " ++ counted xs.length
        ++ " were given"))
  | "getter" | "setter" | "deleter" => do withAccessor name x (← takeOne function a)
  | _ => notProvided function

/-! ## Code -/

/-- A piece of code with some of its fields given anew. -/
def replaceCode (function : String) (x : Obj) (a : Operands) : Run Obj := do
  if !a.positional.isEmpty then
    throw (.badType (function ++ "() takes no positional arguments"))
  else
    let w ← get
    match w.code? x with
    | none => return .none
    | some c => do
      let named := w.namedOf a
      let fields := ["co_argcount", "co_posonlyargcount", "co_kwonlyargcount", "co_nlocals",
        "co_stacksize", "co_flags", "co_firstlineno", "co_code", "co_consts", "co_names",
        "co_varnames", "co_freevars", "co_cellvars", "co_filename", "co_name", "co_qualname",
        "co_linetable", "co_exceptiontable"]
      match named.find? fun k => !fields.contains k.1 with
      | some (k, _) =>
        throw (.badType ((Value.str k).literal ++ " is an invalid keyword argument for "
          ++ "replace()"))
      | none => pure ()
      let textOf (name : String) (old : String) : Run String := do
        match named.lookup name with
        | none => return old
        | some y =>
          match w.text? y with
          | some text => return text
          | none =>
            throw (.badType ("replace() argument '" ++ name ++ "' must be str, not "
              ++ w.argumentTitle y))
      let name ← textOf "co_name" c.name
      let qualifiedName ← textOf "co_qualname" c.qualifiedName
      let nested ← match named.lookup "co_consts" with
        | none => pure c.nested
        | some y => do
          let y ← typedArgument "replace" "co_consts" .tuple y
          pure (((w.parts? y).getD []).filter fun z => (w.code? z).isSome)
      makeOf .code (.code { c with name, qualifiedName, nested })

/-! ## Operators -/

/-- An operator of a type of callables; calls are not made here. -/
def callableOperator (t : BuiltinType) (name : String) (x : Obj) (a : Operands) : Run Obj := do
  match name with
  | "__get__" => do
    let given ← expectBetween name 1 2 a
    bindFor x (given.headD .none) ((given.drop 1).headD .none)
  | "__set__" => do
    match ← expectBetween name 2 2 a with
    | [y, z] => setFor x y (some z)
    | _ => pure ()
    return .none
  | "__delete__" => do
    setFor x (← expectOne name a) none
    return .none
  | "__init__" => do
    match t with
    | .property => setUpProperty x a
    | t => do
      if !a.keywords.isEmpty then
        throw (.badType (t.name ++ "() takes no keyword arguments"))
      setUpBinder t.name x a
    return .none
  | "__hash__" => do
    let _ ← expect name 0 a
    newInt (← hashOf x).toInt
  | _ =>
    match Comparison.ofName? name with
    | some c => do callableComparison c x (← expectOne name a)
    | none => notProvided (t.name ++ "." ++ name)

end StubClass
