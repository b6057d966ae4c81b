import StubClass.Object.Attribute
import StubClass.Value.Number

set_option autoImplicit false

/-! # What every object is asked

Truth, texts, whole numbers and membership of a class: each is asked of the class of an object by a
function that it holds for it, and what comes back has to be of the right type. -/

namespace StubClass

/-- The failure of what goes on without an end, with words for what went on. -/
def deepIn {α : Type} (words : String) (r : Run α) : Run α :=
  tryCatch r fun e =>
    if e.message == Failure.tooDeep.message || e.message == Failure.tooManyCalls.message then
      throw { e with message := Failure.tooDeep.message ++ words }
    else throw e

/-- A name of a type, clipped as it is in most messages. -/
def World.clippedTitle (w : World) (x : Obj) : String :=
  Text.clip 200 (w.typeTitle x)

/-! ## Whole numbers -/

/-- The failure of an object that is no whole number. -/
def noInteger {α : Type} (x : Obj) : Run α := do
  throw (.badType ("'" ++ (← get).clippedTitle x
    ++ "' object cannot be interpreted as an integer"))

/-- The whole number that an object stands for. -/
def indexOf (x : Obj) : Run Int := do
  let w ← get
  match w.whole? x with
  | some n => return n
  | none =>
    match ← callSpecial? x "__index__" [] with
    | none => noInteger x
    | some r => do
      let w ← get
      match w.whole? r with
      | some n => return n
      | none => throw (.badType ("__index__ returned non-int (type " ++ w.clippedTitle r ++ ")"))

/-- A whole number that has to be a number of parts. -/
def asSize (n : Int) : Run Int :=
  orThrow (Value.asSize n)

/-- The number of parts that an object stands for. -/
def sizeOf (x : Obj) : Run Int := do
  let n ← indexOf x
  if Value.isSize n then return n
  else
    throw (.ordinary .overflow ("cannot fit '" ++ (← get).clippedTitle x
      ++ "' into an index-sized integer"))

/-! ## Truth -/

/-- The truth of the body of an object, where that decides. -/
def Body.truth? : Body → Option Bool
  | .int n => some (n != 0)
  | .float x => some (x != 0)
  | .complex re im => some (re != 0 || im != 0)
  | .str text => some (!text.isEmpty)
  | .bytes bs => some (!bs.isEmpty)
  | .list xs | .tuple xs => some (!xs.isEmpty)
  | .dict t => some (!t.isEmpty)
  | .set s => some (s.size != 0)
  | _ => none

/-- The length that an answer to the question for one is. -/
def lengthAnswer (x : Obj) : Run Nat := do
  let n ← indexOf x
  if n < 0 then throw (.badValue "__len__() should return >= 0")
  else if Value.isSize n then return n.toNat
  else
    let w ← get
    let title := if (w.whole? x).isSome then w.clippedTitle x else BuiltinType.int.title
    throw (.ordinary .overflow ("cannot fit '" ++ title ++ "' into an index-sized integer"))

/-- Whether an object counts as true. -/
def truthOf (x : Obj) : Run Bool := do
  let w ← get
  let known := if x == .none then some false else (w.body x).truth?
  match w.special? x "__bool__", w.special? x "__len__", known with
  | some (.held _ _), _, some b | none, some (.held _ _), some b => return b
  | some hook, _, _ => do
    match ← callHook x hook [] with
    | .bool b => return b
    | answer =>
      throw (.badType ("__bool__ should return bool, returned " ++ (← get).typeTitle answer))
  | none, some hook, _ => return (← lengthAnswer (← callHook x hook [])) != 0
  | none, none, _ => return true

/-- The number of parts of an object. -/
def lengthOf (x : Obj) : Run Nat := do
  match ← callSpecial? x "__len__" [] with
  | some answer => lengthAnswer answer
  | none => throw (.badType ("object of type '" ++ (← get).clippedTitle x ++ "' has no len()"))

/-- What an object holds under a key. -/
def partUnder (x key : Obj) : Run Obj := do
  match ← callSpecial? x "__getitem__" [key] with
  | some y => return y
  | none =>
    let w ← get
    if w.isClass x then
      match ← take? x "__class_getitem__" with
      | some f => apply f [key]
      | none => throw (.badType ("type '" ++ w.titleOf x ++ "' is not subscriptable"))
    else throw (.badType ("'" ++ w.clippedTitle x ++ "' object is not subscriptable"))

/-! ## Texts -/

/-- The text that an answer has to be. -/
def textAnswer (name : String) (x : Obj) : Run String := do
  let w ← get
  match w.text? x with
  | some text => return text
  | none =>
    throw (.badType (name ++ " returned non-string (type " ++ w.clippedTitle x ++ ")"))

/-- The literal form of an object, as an object. -/
def literalAs (x : Obj) : Run Obj := do
  match ← deepIn " while getting the repr of an object" (callSpecial? x "__repr__" []) with
  | some r => do
    let _ ← textAnswer "__repr__" r
    return r
  | none => return .word ""

/-- The literal form of an object. -/
def literalOf (x : Obj) : Run String := do
  let y ← literalAs x
  return ((← get).text? y).getD ""

/-- The plain form of an object, as an object. -/
def plainOf (x : Obj) : Run Obj := do
  let w ← get
  if w.isExactly x .str then return x
  else
    match ← deepIn " while getting the str of an object" (callSpecial? x "__str__" []) with
    | some r => do
      let _ ← textAnswer "__str__" r
      return r
    | none => return .word ""

/-- The plain form of an object. -/
def plainText (x : Obj) : Run String := do
  let y ← plainOf x
  return ((← get).text? y).getD ""

/-- An object as part of a text, in a form, as an object. -/
def formattedAs (x : Obj) (form : String) : Run Obj := do
  let w ← get
  if form.isEmpty && w.isExactly x .str then return x
  else
    match ← callSpecial? x "__format__" [.word form] with
    | none => throw (.badType ("Type " ++ w.clippedTitle x ++ " doesn't define __format__"))
    | some r => do
      let w ← get
      if (w.text? r).isSome then return r
      else throw (.badType ("__format__ must return a str, not " ++ w.clippedTitle r))

/-- An object as part of a text, in a form. -/
def formatted (x : Obj) (form : String) : Run String := do
  let y ← formattedAs x form
  return ((← get).text? y).getD ""

/-- An object as part of a text. -/
def inText (x : Obj) : Run String :=
  formatted x ""

/-! ## Classes -/

/-- Whether an object belongs to a class, by its class or by what it says of it. -/
def isInstance (x c : Obj) : Run Bool := do
  let w ← get
  if w.derives (w.typeOf x) c then return true
  else
    match ← take? x "__class__" with
    | none => return false
    | some d => do
      let w ← get
      return d != w.typeOf x && w.isClass d && w.derives d c

/-- Whether an object belongs to a built-in type, by its class or by what it says of it. -/
def isA (x : Obj) (t : BuiltinType) : Run Bool :=
  isInstance x (.type t)

end StubClass
