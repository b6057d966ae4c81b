import StubClass.Ordinary.Dictionary

set_option autoImplicit false

/-! # Iterators

An iterator gives the elements of what it goes through one after another, and fails when there are
none left. One over a sequence can be told from where to go on. Every iterator can be taken apart
into a function and what it has to be given to make an iterator that goes on in the same way. -/

namespace StubClass

/-- The next element of an iterator. -/
def nextOf (it : Obj) : Run Obj := do
  match ← nextOf? it with
  | some y => return y
  | none => throw (.ordinary .stopped "")

/-- Ends an iterator that is made by code. -/
def endProducer (x : Obj) : Run Unit := do
  match (← get).body x with
  | .producer p => putBody x (.producer { p with progress := .finished })
  | _ => return ()

/-- An operator of iterators. -/
def iteratorOperator (t : BuiltinType) (name : String) (x : Obj) (a : Operands) : Run Obj := do
  match name with
  | "__del__" => do
    let _ ← expect name 0 a
    endProducer x
    return .none
  | "__iter__" => do
    let _ ← expect name 0 a
    return x
  | "__next__" => do
    let _ ← expect name 0 a
    nextOf x
  | _ => notProvided (t.name ++ "." ++ name)

/-- How many elements are left for an iterator. -/
def World.leftFor (w : World) (it : Obj) : Nat :=
  match w.body it with
  | .iterator rest => rest.length
  | .sequenceIterator (some x) next =>
    let count := (w.body x).partCount
    if w.isExactly it .listReverseIterator then
      if next < count then (next + 1).toNat else 0
    else (count - next).toNat
  | .tableIterator c =>
    match c.of with
    | some x => if c.size == some (w.tableOf x).length then c.left else 0
    | none => 0
  | _ => 0

/-- Tells an iterator over a sequence from which number to go on: no number but one of its parts, or
the one behind them, is taken. -/
def goOnFrom (it y : Obj) : Run Unit := do
  let w ← get
  match w.whole? y with
  | none => throw (.badType "an integer is required")
  | some n => do
    let n ← asSize n
    match w.body it with
    | .sequenceIterator (some x) _ =>
      let count : Int := (w.body x).partCount
      let next := if w.isExactly it .listReverseIterator then max (-1) (min n (count - 1))
        else max 0 (min n count)
      putBody it (.sequenceIterator (some x) next)
    | _ => return ()

/-- What an iterator over a sequence goes through when nothing is left. -/
def nothingLeft (t : BuiltinType) : Run Obj :=
  match t with
  | .listIterator | .listReverseIterator => newList []
  | .asciiIterator | .textIterator => return .word ""
  | _ => newTuple []

/-- An iterator taken apart. -/
def iteratorParts (it : Obj) : Run Obj := do
  let w ← get
  let t := w.iteratorType it
  let maker := if t == .listReverseIterator then Obj.type .reversed else .held .module "iter"
  match w.body it with
  | .sequenceIterator (some x) next => do
    let given ← newTuple [x]
    if t == .appliedIterator then newTuple [maker, given]
    else newTuple [maker, given, ← newInt next]
  | .sequenceIterator none _ => do newTuple [maker, ← newTuple [← nothingLeft t]]
  | b => do
    let ys ← drained it
    putBody it b
    newTuple [maker, ← newTuple [← newList ys]]

/-- Goes on with an iterator that is made by code, which is given an object once it has started. -/
def sendTo (x y : Obj) : Run Obj := do
  match (← get).body x with
  | .producer p =>
    if p.progress == .created && y != .none then
      throw (.badType "can't send non-None value to a just-started generator")
    else nextOf x
  | _ => nextOf x

/-- A method of iterators that are made by code. -/
def producerMethod (name function : String) (x : Obj) (a : Operands) : Run Obj := do
  match name with
  | "send" => do sendTo x (← takeOne function a)
  | "close" => do
    takeNone function a
    endProducer x
    return .none
  | "throw" => do
    match ← takeBetween function name 1 3 a with
    | [_, _, _] => throw (.badType "throw() third argument must be a traceback object")
    | y :: _ =>
      throw (.badType ("exceptions must be classes or instances deriving from BaseException, not "
        ++ (← get).typeTitle y))
    | [] => return .none
  | _ => notProvided function

/-- A method of iterators. -/
def iteratorMethod (name function : String) (x : Obj) (a : Operands) : Run Obj := do
  match name with
  | "__length_hint__" => do
    takeNone function a
    newInt ((← get).leftFor x)
  | "__setstate__" => do
    goOnFrom x (← takeOne function a)
    return .none
  | "__reduce__" => do
    takeNone function a
    iteratorParts x
  | _ => notProvided function

/-- An iterator over an object from behind. -/
def makeReversed (a : Operands) : Run Obj := do
  let w ← get
  match ← takeBetween "reversed" "reversed" 1 1 a with
  | x :: _ =>
    let refuse : Run Obj :=
      throw (.badType ("'" ++ w.clippedTitle x ++ "' object is not reversible"))
    match w.special? x "__reversed__", w.special? x "__getitem__" with
    | some .none, _ => refuse
    | some hook, _ => callHook x hook []
    | none, some hook =>
      if (w.table? x).isSome then refuse
      else do
        let n ← lengthOf x
        let xs ← (List.range n).mapM fun (i : Nat) => do callHook x hook [← newInt i]
        makeOf .reversed (.iterator xs.reverse)
    | none, none => refuse
  | [] => return .none

end StubClass
