import StubClass.Library.Given

set_option autoImplicit false

/-! # How objects are shown outside of a session

An answer shows an object as a tree. Objects of the types of plain values are shown as what they
are, those of classes derived from these types too; a class, what can be called and any other object
is shown by a name. What contains itself cannot be shown. -/

namespace StubClass

/-- An object as it is shown. -/
inductive Tree where
  | plain (v : Value)
  | list (ts : List Tree)
  | tuple (ts : List Tree)
  | dict (entries : List (Tree × Tree))
  /-- A class, by its name. -/
  | classNamed (name : String)
  /-- What can be called, by the name of its class. -/
  | callableOf (name : String)
  /-- Any other object, by the name of its class. -/
  | instanceOf (name : String)
deriving Repr, Inhabited

/-- An object without parts as it is shown. Classes are asked for their names, and what their own
classes answer for them is shown. -/
def shownLeaf (x : Obj) : Run Tree := do
  let w ← get
  match x, w.body x with
  | .none, _ => return .plain .null
  | .bool b, _ => return .plain (.bool b)
  | .type t, _ =>
    return if BuiltinType.plainTypes.contains t then .plain (.type t) else .classNamed t.name
  | x, .str text => return .plain (if w.isOf x .symbol then .symbol text else .str text)
  | _, .int n => return .plain (.int n)
  | _, .float y => return .plain (.float y)
  | _, .bytes bs => return .plain (.bytes bs)
  | x, _ =>
    match ParameterKind.all.find? fun k => ofKind k == x,
      Visibility.all.find? fun v => ofVisibility v == x with
    | some k, _ => return .plain (.kind k)
    | none, some v => return .plain (.visibility v)
    | none, none =>
      if w.isClass x then return .classNamed (← inText (← take x "__name__"))
      else if w.isCallable x then return .callableOf (← typeNameIn x)
      else return .instanceOf (← typeNameIn x)

/-- An object as a tree, no deeper than a number of levels; `path` holds the objects above it. -/
def shownAt : (depth : Nat) → (path : List Obj) → Obj → Run Tree
  | 0, _, _ => throw .tooDeep
  | depth + 1, path, x => do
    if path.contains x then throw .tooDeep
    let all (ys : List Obj) : Run (List Tree) := ys.mapM (shownAt depth (x :: path))
    let entry (key y : Obj) : Run (Tree × Tree) := do
      let k ← shownAt depth (x :: path) key
      return (k, ← shownAt depth (x :: path) y)
    let w ← get
    match w.body x with
    | .list _ => do return .list (← all (← elementsOf x))
    | .tuple _ => do return .tuple (← all (← elementsOf x))
    | .dict t => do
      if w.isExactly x .dict then
        return .dict (← t.mapM fun (e : Entry) => entry e.key e.value)
      else
        let pairs ← elementsOf (← callAttribute x "items" [])
        return .dict (← pairs.mapM fun p => do
          let parts ← elementsOf p
          entry (parts.getD 0 .none) (parts.getD 1 .none))
    | .int n =>
      if n.natAbs < Number.tooLong then shownLeaf x else throw (tooManyDigits none)
    | _ => shownLeaf x

/-- An object as a tree. -/
def shown (x : Obj) : Run Tree := do
  shownAt ((← get).heap.size + 1) [] x

end StubClass
