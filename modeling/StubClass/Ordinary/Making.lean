import StubClass.Ordinary.Listing
import StubClass.Ordinary.Writing

set_option autoImplicit false

/-! # Making plain objects

What the types of plain values make of arguments: numbers from texts and other numbers, texts from
anything, containers from what can be gone through. A number or text of a derived class is made in
the same way and then belongs to that class. -/

namespace StubClass

/-- Makes an object of a class with a body. -/
def makeOfClass (c : Obj) (b : Body) : Run Obj :=
  make { cls := c, body := b }

/-- Whether a class makes its objects, or sets them up, in the way of a built-in type: `name` is the
name of the function for it. -/
def World.doesAs (w : World) (c : Obj) (t : BuiltinType) (name : String) : Bool :=
  (w.find? c name) == some (.held t name)

/-! ## Numbers -/

/-- The base that a number is read in. -/
def baseOf (x : Obj) : Run Nat := do
  let n ← indexOf x
  if n == 0 || (2 ≤ n && n ≤ 36) then return n.toNat
  else throw (.badValue "int() base must be >= 2 and <= 36, or 0")

/-- The whole number that an object is made into, read in a base. -/
def wholeInBase (x base : Obj) : Run Int := do
  let b ← baseOf base
  match (← get).body x with
  | .str text => readWhole b text x
  | .bytes bs => readWholeBytes b bs
  | _ => throw (.badType "int() can't convert non-string with explicit base")

/-- Makes a whole number. -/
def makeInt (c : Obj) (a : Operands) : Run Obj := do
  let given ← passTo "int" ["", "base"] a
  let w ← get
  match givenAt given 0, givenAt given 1 with
  | none, some _ => throw (.badType "int() missing string argument")
  | none, none => makeOfClass c (.int 0)
  | some x, none =>
    if c == .type .int && w.isExactly x .int then return x
    else makeOfClass c (.int (← wholeFrom x))
  | some x, some base => do makeOfClass c (.int (← wholeInBase x base))

/-- Makes a floating point number. -/
def makeFloat (c : Obj) (a : Operands) : Run Obj := do
  let w ← get
  if !a.keywords.isEmpty && (c == .type .float || w.doesAs c .object "__init__") then
    throw (.badType "float() takes no keyword arguments")
  else
    match ← takeBetween "float" "float" 0 1 (.ofList a.positional) with
    | [] => makeOfClass c (.float 0.0)
    | x :: _ =>
      if c == .type .float && w.isExactly x .float then return x
      else makeOfClass c (.float (← floatFrom x))

/-- Makes a truth value. -/
def makeBool (a : Operands) : Run Obj := do
  match ← takeBetween "bool" "bool" 0 1 a with
  | [] => return .bool false
  | x :: _ => do return .bool (← truthOf x)

/-! ## Texts and bytes -/

/-- The names of the parameters that say how texts stand in bytes. -/
def encodingNames : List String :=
  ["encoding", "errors"]

/-- The text that arguments are made into. -/
def textFrom (a : Operands) : Run Obj := do
  let given ← passTo "str" ("object" :: encodingNames) a
  let encoding ← wordFor "str" "encoding" (givenAt given 1)
  let errors ← wordFor "str" "errors" (givenAt given 2)
  match givenAt given 0 with
  | none => return .word ""
  | some x =>
    if encoding.isNone && errors.isNone then plainOf x
    else
      let w ← get
      match w.body x with
      | .bytes bs => decodeBytes bs (encoding.getD "utf-8") (errors.getD "strict")
      | .str _ => throw (.badType "decoding str is not supported")
      | _ =>
        throw (.badType ("decoding to str: need a bytes-like object, "
          ++ Text.clip 80 (w.typeTitle x) ++ " found"))

/-- Makes a text. -/
def makeText (c : Obj) (a : Operands) : Run Obj := do
  let x ← textFrom a
  if c == .type .str then return x else makeOfClass c (.str (((← get).text? x).getD ""))

/-- A byte by its number. -/
def byteOf (x : Obj) : Run UInt8 := do
  let n ← indexOf x
  if 0 ≤ n && n ≤ 255 then return UInt8.ofNat n.toNat
  else throw (.badValue "bytes must be in range(0, 256)")

/-- The bytes that an object is made into. -/
def bytesFrom (x : Obj) : Run (List UInt8) := do
  let w ← get
  match w.body x, w.special? x "__bytes__" with
  | .str _, none => throw (.badType "string argument without an encoding")
  | _, some hook => do
    let y ← callHook x hook []
    let w ← get
    match w.body y with
    | .bytes bs => return bs
    | _ =>
      throw (.badType ("__bytes__ returned non-bytes (type " ++ Text.clip 200 (w.typeTitle y)
        ++ ")"))
  | .bytes bs, none => return bs
  | _, none =>
    if (w.special? x "__index__").isSome then do
      let n ← sizeOf x
      if n < 0 then throw (.badValue "negative count")
      else repeatParts (.ordinary .memory "") n.toNat [0]
    else
      match ← elements? x with
      | some xs => xs.mapM byteOf
      | none => throw (.badType ("cannot convert '" ++ w.clippedTitle x ++ "' object to bytes"))

/-- Makes bytes. -/
def makeBytes (c : Obj) (a : Operands) : Run Obj := do
  let given ← passTo "bytes" ("source" :: encodingNames) a
  let encoding ← wordFor "bytes" "encoding" (givenAt given 1)
  let errors ← wordFor "bytes" "errors" (givenAt given 2)
  let w ← get
  let made (y : Obj) : Run Obj := do
    if c == .type .bytes then return y
    else
      match (← get).body y with
      | .bytes bs => makeOfClass c (.bytes bs)
      | _ => return y
  match givenAt given 0, encoding, errors with
  | none, none, none => makeOfClass c (.bytes [])
  | none, some _, _ => throw (.badType "encoding without a string argument")
  | none, none, some _ => throw (.badType "errors without a string argument")
  | some x, some encoding, errors =>
    match w.text? x with
    | some text => do made (← encodeText text encoding (errors.getD "strict"))
    | none => throw (.badType "encoding without a string argument")
  | some x, none, some _ =>
    if (w.text? x).isSome then throw (.badType "string argument without an encoding")
    else throw (.badType "errors without a string argument")
  | some x, none, none =>
    if c == .type .bytes && w.isExactly x .bytes then return x
    else makeOfClass c (.bytes (← bytesFrom x))

/-! ## Containers -/

/-- Makes a tuple. -/
def makeTuple (c : Obj) (a : Operands) : Run Obj := do
  let w ← get
  if !a.keywords.isEmpty && (c == .type .tuple || w.doesAs c .object "__init__") then
    throw (.badType "tuple() takes no keyword arguments")
  else
    match ← takeBetween "tuple" "tuple" 0 1 (.ofList a.positional) with
    | [] => makeOfClass c (.tuple [])
    | x :: _ =>
      if c == .type .tuple && w.isExactly x .tuple then return x
      else makeOfClass c (.tuple (← elementsOf x))

/-- Fills a list with what can be gone through. -/
def setUpList (x : Obj) (a : Operands) : Run Unit := do
  let w ← get
  let makes := (w.find? (w.typeOf x) "__new__") == some (.held .list "__new__")
  if !a.keywords.isEmpty && makes then throw (.badType "list() takes no keyword arguments")
  else
    let given ← takeBetween "list" "list" 0 1 (.ofList a.positional)
    putParts x []
    match given with
    | y :: _ => do putParts x (← elementsOf y)
    | [] => return ()

/-! ## The rest -/

/-- Makes the one object of a type that has only one. -/
def makeSingle (t : BuiltinType) (x : Obj) (a : Operands) : Run Obj :=
  if a.isEmpty then return x else throw (.badType (t.name ++ " takes no arguments"))

/-- An argument that has to be of a built-in type. -/
def typedArgument (function name : String) (t : BuiltinType) (x : Obj) : Run Obj := do
  let w ← get
  if w.isOf x t then return x
  else
    throw (.badType (function ++ "() argument '" ++ name ++ "' must be " ++ t.name ++ ", not "
      ++ w.argumentTitle x))

/-- The piece of code under a label, made the first time that it is asked for. -/
def codeUnder (label : String) (c : CodeBody) : Run Obj := do
  match (← get).codes.lookup label with
  | some x => return x
  | none => do
    let x ← makeOf .code (.code c)
    modify fun w => { w with codes := (label, x) :: w.codes }
    return x

/-- A cell with an object in it. -/
def newCell (x : Obj) : Run Obj :=
  makeOf .cell (.cell (some x))

/-- A function of a piece of code, closed over cells with objects in them. -/
def newFunction (code : Obj) (closure : List Obj) (moduleName : String) : Run Obj := do
  match (← get).code? code with
  | none => return .none
  | some c => do
    let closure ← closure.mapM newCell
    makeOf .function (.function
      { code, closure, name := .word c.name, qualifiedName := .word c.qualifiedName, doc := .none,
        moduleName := .word moduleName, defaults := .none, namedDefaults := .none, notes := .none })

/-- Makes a function of a piece of code. -/
def makeFunction (a : Operands) : Run Obj := do
  let given ← passBetween 2 5 "function" ["code", "globals", "name", "argdefs", "closure"] a
  let code ← typedArgument "function" "code" .code ((givenAt given 0).getD .none)
  let globals ← typedArgument "function" "globals" .dict ((givenAt given 1).getD .none)
  finish code globals (givenAt given 2) (givenAt given 3) (givenAt given 4)
where
  /-- The function, once its code and what it sees are known. -/
  finish (code globals : Obj) (name defaults closure : Option Obj) : Run Obj := do
    let w ← get
    let c := (w.code? code).getD ⟨.labelled "", "", "", [], []⟩
    let name := name.filter (· != .none)
    let defaults := defaults.filter (· != .none)
    let closure := (closure.filter (· != .none))
    let cells := ((closure.filter fun x => w.isOf x .tuple).bind w.parts?).getD []
    if (name.map fun x => (w.text? x).isNone).getD false then
      throw (.badType "arg 3 (name) must be None or string")
    else if (defaults.map fun x => !w.isOf x .tuple).getD false then
      throw (.badType "arg 4 (defaults) must be None or tuple")
    else if closure.isNone && !c.freeNames.isEmpty then
      throw (.badType "arg 5 (closure) must be tuple")
    else if (closure.map fun x => !w.isOf x .tuple).getD false then
      throw (.badType "arg 5 (closure) must be None or tuple")
    else if cells.length != c.freeNames.length then
      throw (.badValue (c.name ++ " requires closure of length " ++ counted c.freeNames.length
        ++ ", not " ++ counted cells.length))
    else if let some x := cells.find? fun x => !w.isOf x .cell then
      throw (.badType ("arg 5 (closure) expected cell, found " ++ w.typeTitle x))
    else
      let moduleName := ((w.tableOf globals).get? "__name__").getD .none
      let name := name.getD (.word c.name)
      makeOf .function (.function
        { code, closure := cells, name, qualifiedName := name, doc := .none, moduleName,
          defaults := defaults.getD .none, namedDefaults := .none, notes := .none })

/-- Makes a cell. -/
def makeCell (a : Operands) : Run Obj := do
  if !a.keywords.isEmpty then throw (.badType "cell() takes no keyword arguments")
  else
    let given ← takeBetween "cell" "cell" 0 1 a
    makeOf .cell (.cell given.head?)

/-- Makes a method of a callable and its receiver. -/
def makeMethod (a : Operands) : Run Obj := do
  if !a.keywords.isEmpty then throw (.badType "method() takes no keyword arguments")
  else
    match ← takeBetween "method" "method" 2 2 a with
    | [f, x] =>
      if !(← get).isCallable f then throw (.badType "first argument must be callable")
      else if x == .none then throw (.badType "instance must not be None")
      else newMethod f x
    | _ => return .none

/-- Makes a call prepared in part. -/
def makePartial (c : Obj) (a : Operands) : Run Obj := do
  match a.positional with
  | [] => throw (.badType "type 'partial' takes at least one argument")
  | f :: positional => do
    let w ← get
    if !w.isCallable f then throw (.badType "the first argument must be callable")
    else
      let keep (f : Obj) (before : List Obj) (named : Table) : Run Obj := do
        let d ← newDict named
        for k in a.keywords do
          putItem d k.1 k.2
        makeOfClass c (.partialCall f (before ++ positional) d)
      let isPlain := w.special? f "__call__" == some (.held .partialCall "__call__")
        && ((w.entity? f).bind Entity.dict).isNone
      match isPlain, w.body f with
      | true, .partialCall inner before named => keep inner before (w.tableOf named)
      | _, _ => keep f [] []

/-- Makes a dictionary that is only read. -/
def makeReadOnly (a : Operands) : Run Obj := do
  let given ← passBetween 1 1 "mappingproxy" ["mapping"] a
  let x := (givenAt given 0).getD .none
  let w ← get
  let isSequence := w.isOf x .list || w.isOf x .tuple
  if (w.special? x "__getitem__").isSome && !isSequence then makeOf .readOnlyDict (.readOnly x)
  else throw (.badType ("mappingproxy() argument must be a mapping, not " ++ w.typeTitle x))

/-- Puts an attribute of a callable to those that a layer around it keeps. -/
def copyAttribute (x f : Obj) (name : String) : Run Unit := do
  match ← take? f name with
  | some y => putOwn x name y
  | none => return ()

/-- Sets up what binds to the class, or to nothing. -/
def setUpBinder (name : String) (x : Obj) (a : Operands) : Run Unit := do
  match ← takeBetween name name 1 1 a with
  | f :: _ => do
    putBody x (.binder f)
    for n in ["__module__", "__name__", "__qualname__", "__doc__"] do
      copyAttribute x f n
  | [] => return ()

/-- Sets up a property. -/
def setUpProperty (x : Obj) (a : Operands) : Run Unit := do
  let given ← passTo "property" ["fget", "fset", "fdel", "doc"] a
  let part (i : Nat) : Obj := (givenAt given i).getD .none
  let isOwn := part 3 == .none && part 0 != .none
  let fromGetter ← if isOwn then take? (part 0) "__doc__" else pure none
  let isDerived := !(← get).isExactly x .property
  let doc := if isDerived then part 3 else fromGetter.getD (part 3)
  putBody x (.property ⟨part 0, part 1, part 2, doc, fromGetter.isSome && !isDerived, none⟩)
  match fromGetter with
  | some doc => if isDerived then assign x "__doc__" (some doc) else return ()
  | none => return ()

end StubClass
