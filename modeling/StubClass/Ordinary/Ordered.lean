import StubClass.Ordinary.Writing

set_option autoImplicit false

/-! # Dictionaries whose order counts

A dictionary whose order counts holds what other dictionaries do, and is equal to another one of its
sort only if the keys come in the same order. A key can be moved to either end. What fills it goes
through its own function for putting something under a key. -/

namespace StubClass

/-! ## Filling -/

/-- The two parts of a pair. -/
def pairParts (x : Obj) : Run (Obj × Obj) := do
  match ← elementsOf x with
  | [] => throw (.badValue "need more than 0 values to unpack")
  | [_] => throw (.badValue "need more than 1 value to unpack")
  | [key, y] => return (key, y)
  | _ => throw (.badValue "too many values to unpack (expected 2)")

/-- Puts pairs under keys of an object. -/
def storePairs (x : Obj) : List Obj → Run Unit
  | [] => return ()
  | pair :: pairs => do
    let (key, y) ← pairParts pair
    storeUnder x key y
    storePairs x pairs

/-- Puts into an object what another one holds under keys, what its entries are, or its elements,
which have to be pairs. -/
def storeFrom (x y : Obj) : Run Unit := do
  let w ← get
  if w.isExactly y .dict then storePairs x (← pairsOf (w.tableOf y))
  else
    match ← take? y "keys" with
    | some f => do
      for key in ← elementsOf (← apply f []) do
        storeUnder x key (← partUnder y key)
    | none =>
      match ← take? y "items" with
      | some f => do storePairs x (← elementsOf (← apply f []))
      | none => do storePairs x (← elementsOf y)

/-- Puts the arguments of a call into an object; `refusal` tells too many of them apart. -/
def storeByCall (x : Obj) (refusal : Nat → String) (a : Operands) : Run Unit := do
  match a.positional with
  | [] => pure ()
  | [y] => storeFrom x y
  | xs => throw (.badType (refusal xs.length))
  for k in a.keywords do
    storeUnder x k.1 k.2

/-! ## Keys -/

/-- The entry of a key, which has to be there. -/
def entryAt (x key : Obj) : Run Entry := do
  let h ← hashOf key
  match ← entryWith? h key ((← get).tableOf x) with
  | some e => return e
  | none => noEntry key

/-- Moves a key to the end, or to the front. -/
def moveKey (x key : Obj) (toEnd : Bool) : Run Unit := do
  let e ← entryAt x key
  let rest ← dropWith e.hash e.key ((← get).tableOf x)
  putTable x (if toEnd then rest ++ [e] else e :: rest)

/-- Takes out the last entry, or the first one. -/
def popEntry (x : Obj) (isLast : Bool) : Run Obj := do
  let t := (← get).tableOf x
  match if isLast then t.getLast? else t.head? with
  | none => throw (.ordinary .noKey "'dictionary is empty'")
  | some e => do
    putTable x (if isLast then t.dropLast else t.drop 1)
    newTuple [e.key, e.value]

/-- Whether two lists of keys are equal, one after another. -/
def sameKeys : List Obj → List Obj → Run Bool
  | x :: xs, y :: ys => do
    if ← isSame x y then sameKeys xs ys else return false
  | [], [] => return true
  | _, _ => return false

/-- Whether two dictionaries are equal, the first of which has an order that counts, if both are
dictionaries. -/
def orderedEqual (x y : Obj) : Run (Option Bool) := do
  match ← dictEqual x y with
  | some true => do
    let w ← get
    if w.isOf y .orderedDict then some <$> sameKeys (w.tableOf x).keys (w.tableOf y).keys
    else return some true
  | answer => return answer

/-- What stands under a key, once an object was put there if there was none. -/
def settledUnder (x key y : Obj) : Run Obj := do
  if (← get).isExactly x .orderedDict then
    match ← valueUnder? ((← get).tableOf x) key with
    | some z => return z
    | none => do
      putItem x key y
      return y
  else if ← holds x key then partUnder x key
  else do
    storeUnder x key y
    return y

/-- A dictionary of the same class with the same entries. -/
def orderedCopy (x : Obj) : Run Obj := do
  let w ← get
  if w.isExactly x .orderedDict then makeOf .orderedDict (.dict (w.tableOf x))
  else do
    let y ← apply (w.typeOf x) []
    for key in (w.tableOf x).keys do
      storeUnder y key (← partUnder x key)
    return y

/-! ## Literal forms -/

/-- The literal form of a dictionary whose order counts. -/
def orderedLiteral (x : Obj) : Run String := do
  let w ← get
  let name := w.typeName x
  if (w.tableOf x).isEmpty then return name ++ "()"
  else
    unlessAgain x "..." do
      let pairs ← if w.isExactly x .orderedDict then pairsOf (w.tableOf x)
        else elementsOf (← callAttribute x "items" [])
      return name ++ "(" ++ (← literalOf (← newList pairs)) ++ ")"

/-! ## Methods and operators -/

/-- A method of a dictionary whose order counts. -/
def orderedMethod (name function : String) (x : Obj) (a : Operands) : Run Obj := do
  let truth (y : Option Obj) : Run Bool :=
    match y with
    | some y => truthOf y
    | none => return true
  match name with
  | "keys" => do
    takeNone function a
    makeOf .orderedKeys (.view x)
  | "values" => do
    takeNone function a
    makeOf .orderedValues (.view x)
  | "items" => do
    takeNone function a
    makeOf .orderedEntries (.view x)
  | "clear" => do
    takeNone function a
    putTable x []
    return .none
  | "copy" => do
    takeNone function a
    orderedCopy x
  | "update" => do
    storeByCall x (fun n => "update() takes at most 1 positional argument (" ++ counted n
      ++ " given)") a
    return .none
  | "setdefault" => do
    let given ← passBetween 1 2 "setdefault" ["key", "default"] a
    settledUnder x ((givenAt given 0).getD .none) ((givenAt given 1).getD .none)
  | "pop" => do
    let given ← passBetween 1 2 "pop" ["key", "default"] a
    let key := (givenAt given 0).getD .none
    match ← valueUnder? ((← get).tableOf x) key, givenAt given 1 with
    | some y, _ => do
      removeKey x key
      return y
    | none, some y => return y
    | none, none => noEntry key
  | "popitem" => do
    let given ← passTo "popitem" ["last"] a
    popEntry x (← truth (givenAt given 0))
  | "move_to_end" => do
    let given ← passBetween 1 2 "move_to_end" ["key", "last"] a
    moveKey x ((givenAt given 0).getD .none) (← truth (givenAt given 1))
    return .none
  | "__reversed__" => do
    takeNone function a
    newOrderedIterator .keyReverseIterator x
  | _ => notProvided function

/-- A dictionary of the class of the first of two that is one whose order counts, with the entries
of both. -/
def orderedMerge (c x y : Obj) : Run Obj := do
  let d ← apply c [x]
  storeFrom d y
  return d

/-- An operator of a dictionary whose order counts. -/
def orderedOperator (name : String) (x : Obj) (a : Operands) : Run Obj := do
  let w ← get
  let merged (x y : Obj) : Run Obj := do
    let (c, other) := if w.isOf x .orderedDict then (w.typeOf x, y) else (w.typeOf y, x)
    if w.isOf other .dict then orderedMerge c x y else return .unknownOperand
  match name with
  | "__init__" => do
    if 1 < a.positional.length then
      throw (.badType ("expected at most 1 arguments, got " ++ counted a.positional.length))
    storeByCall x (fun _ => "") a
    return .none
  | "__iter__" => do
    let _ ← expect name 0 a
    newOrderedIterator .keyIterator x
  | "__or__" => do merged x (← expectOne name a)
  | "__ror__" => do merged (← expectOne name a) x
  | "__ior__" => do
    storeFrom x (← expectOne name a)
    return x
  | "__eq__" => do
    return ((← orderedEqual x (← expectOne name a)).map Obj.bool).getD .unknownOperand
  | "__ne__" => do
    return ((← orderedEqual x (← expectOne name a)).map fun b => Obj.bool !b).getD .unknownOperand
  | _ => dictOperator name x a

/-- The iterators over a dictionary that give what a view of one whose order counts does. -/
def orderedViewLike : BuiltinType → BuiltinType
  | .orderedValues => .valuesView
  | .orderedEntries => .entriesView
  | _ => .keysView

/-- What a view of a dictionary whose order counts is gone through by, from the front or from
behind. -/
def orderedViewIterator (t : BuiltinType) (isBackward : Bool) (x : Obj) : Run Obj := do
  let like := orderedViewLike t
  match (← get).body x with
  | .view of =>
    newOrderedIterator
      (if isBackward then viewReverseIteratorType like else viewIteratorType like) of
  | _ => return .none

end StubClass
