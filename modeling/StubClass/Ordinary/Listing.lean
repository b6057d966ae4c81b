import StubClass.Ordinary.Sequence
import StubClass.Ordinary.Sorting

set_option autoImplicit false

/-! # Lists

Changes to a list: parts put in and taken out by their numbers or by their equality, other parts put
behind them, and sorting. -/

namespace StubClass

/-- Gives a list other parts. -/
def putParts (x : Obj) (xs : List Obj) : Run Unit :=
  putBody x (.list xs)

/-- The parts of a list as they are now. -/
def partsNow (x : Obj) : Run (List Obj) := do
  return ((← get).parts? x).getD []

/-! ## Taking out and putting in -/

/-- Takes an object out of a list by its number. -/
def popFrom (x : Obj) (function : String) (a : Operands) : Run Obj := do
  let index ← match ← takeBetween function "pop" 0 1 a with
    | y :: _ => sizeArgument y
    | [] => pure (-1)
  let xs ← partsNow x
  if xs.isEmpty then throw (.ordinary .badIndex "pop from empty list")
  else
    let y ← partAt "pop index" xs index
    putParts x (xs.eraseIdx ((placeAmong? xs.length index).getD 0))
    return y

/-- Takes the first equal object out of a list. -/
def removeFrom (x y : Obj) : Run Obj := do
  match ← findEqual? y 0 (← partsNow x) with
  | some i => do
    putParts x ((← partsNow x).eraseIdx i)
    return .none
  | none => throw (.badValue "list.remove(x): x not in list")

/-- Puts an object into a list in front of the one with a number. -/
def insertInto (x : Obj) (function : String) (a : Operands) : Run Obj := do
  match ← takeBetween function "insert" 2 2 a with
  | index :: y :: _ => do
    let n ← sizeArgument index
    let xs ← partsNow x
    let i := Text.place xs.length n
    putParts x (xs.take i ++ y :: xs.drop i)
    return .none
  | _ => return .none

/-- Changes the part of a list under an index, or takes it out. -/
def assignPart (x index : Obj) (y : Option Obj) : Run Unit := do
  let w ← get
  let i ← partNumber ("list indices must be integers or slices, not " ++ w.clippedTitle index)
    index
  let xs ← partsNow x
  match placeAmong? xs.length i, y with
  | some i, some y => putParts x (xs.set i y)
  | some i, none => putParts x (xs.eraseIdx i)
  | none, _ => throw (.ordinary .badIndex "list assignment index out of range")

/-- Puts the elements of an object behind a list. -/
def extendBy (x y : Obj) : Run Unit := do
  let ys ← elementsOf y
  putParts x ((← partsNow x) ++ ys)

/-! ## Sorting -/

/-- Sorts a list by what a function makes of its objects, or by themselves. While that goes on the
list is empty, and nothing may be put into it. -/
def sortBy (x : Obj) (key : Option Obj) (isReversed : Bool) : Run Unit := do
  let xs ← partsNow x
  putParts x []
  let keyed ← tryCatch (xs.mapM fun y => do
      match key with
      | some f => return (← apply f [y], y)
      | none => return (y, y)) fun e => do
    putParts x xs
    throw e
  let turned (ys : List Sorting.Item) : List Sorting.Item := if isReversed then ys.reverse else ys
  let (sorted, failure) ← Sorting.sortItems (turned keyed)
  let isChanged := !(← partsNow x).isEmpty
  putParts x ((turned sorted).map (·.2))
  match failure with
  | some e => throw e
  | none => if isChanged then throw (.badValue "list modified during sort") else return ()

/-- Sorts a list. -/
def sortMethod (x : Obj) (a : Operands) : Run Obj := do
  let given ← passBetween 0 0 "sort" ["key", "reverse"] a
  let key := (givenAt given 0).filter (· != .none)
  let isReversed ← match givenAt given 1 with
    | some y => do pure ((← smallArgument y) != 0)
    | none => pure false
  sortBy x key isReversed
  return .none

/-! ## Methods and operators -/

/-- A method of a list. -/
def listMethod (name function : String) (x : Obj) (a : Operands) : Run Obj := do
  let xs ← partsNow x
  let put (ys : List Obj) : Run Obj := do
    putParts x ys
    return .none
  match name with
  | "index" => indexIn function true xs a
  | "count" => do
    let y ← takeOne function a
    newInt (← countEqual y xs)
  | "append" => do
    let y ← takeOne function a
    put (xs ++ [y])
  | "extend" => do
    extendBy x (← takeOne function a)
    return .none
  | "insert" => insertInto x function a
  | "remove" => do removeFrom x (← takeOne function a)
  | "pop" => popFrom x function a
  | "copy" => do
    takeNone function a
    newList xs
  | "clear" => do
    takeNone function a
    put []
  | "reverse" => do
    takeNone function a
    put xs.reverse
  | "sort" => sortMethod x a
  | "__getitem__" => do itemOf x (← takeOne function a)
  | "__reversed__" => do
    takeNone function a
    makeOf .listReverseIterator (.sequenceIterator (some x) ((xs.length : Int) - 1))
  | _ => notProvided function

/-- An operator of lists. -/
def listOperator (name : String) (x : Obj) (a : Operands) : Run Obj := do
  match name with
  | "__setitem__" => do
    match ← expectBetween name 2 2 a with
    | [index, y] => assignPart x index (some y)
    | _ => pure ()
    return .none
  | "__delitem__" => do
    assignPart x (← expectOne name a) none
    return .none
  | "__iadd__" => do
    extendBy x (← expectOne name a)
    return x
  | "__imul__" => do
    let n := (← sizeOf (← expectFactor name a)).toNat
    putParts x (← repeatParts (.ordinary .memory "") n (← partsNow x))
    return x
  | _ => sequenceOperator .list name x a

end StubClass
