import StubClass.Ordinary.Binary

set_option autoImplicit false

/-! # Dictionaries

What stands under keys: looked up, put there, taken out, and told as views that follow the
dictionary. What a class holds is seen like a dictionary that can only be read. -/

namespace StubClass

/-! ## Tables -/

/-- Gives a dictionary another table. -/
def putTable (x : Obj) (t : Table) : Run Unit :=
  putBody x (.dict t)

/-- Puts an object under a key of a dictionary, as dictionaries do it. -/
def putItem (x key y : Obj) : Run Unit := do
  let h ← hashOf key
  let t ← putWith h key y ((← get).tableOf x)
  putTable x t

/-- Puts an object under a key of any object, as its class does it. -/
def storeUnder (x key y : Obj) : Run Unit := do
  match ← callSpecial? x "__setitem__" [key, y] with
  | some _ => return ()
  | none =>
    throw (.badType ("'" ++ (← get).clippedTitle x ++ "' object does not support item assignment"))

/-- The failure to find a key. -/
def noEntry {α : Type} (key : Obj) : Run α := do
  throw (.ordinary .noKey (← literalOf key))

/-- What a dictionary holds under a key; an object of a derived class may be asked for what is
missing. -/
def entryUnder (x key : Obj) : Run Obj := do
  match ← valueUnder? ((← get).tableOf x) key with
  | some y => return y
  | none =>
    let w ← get
    match if w.isExactly x .dict then none else w.special? x "__missing__" with
    | some hook => callHook x hook [key]
    | none => noEntry key

/-- Takes a key out of a dictionary. -/
def removeKey (x key : Obj) : Run Unit := do
  let h ← hashOf key
  match ← entryWith? h key ((← get).tableOf x) with
  | some _ => do putTable x (← dropWith h key ((← get).tableOf x))
  | none => noEntry key

/-! ## Putting in -/

/-- Puts pairs into a dictionary; `index` is the number of the first of them. -/
def putPairs (x : Obj) : (index : Nat) → List Obj → Run Unit
  | _, [] => return ()
  | index, y :: ys => do
    let element := "dictionary update sequence element #" ++ counted index
    match ← elements? y with
    | none => throw (.badType ("cannot convert " ++ element ++ " to a sequence"))
    | some [key, z] => do
      putItem x key z
      putPairs x (index + 1) ys
    | some zs =>
      throw (.badValue (element ++ " has length " ++ counted zs.length ++ "; 2 is required"))

/-- Puts entries into a dictionary. -/
def putEntries (x : Obj) : Table → Run Unit
  | [] => return ()
  | e :: es => do
    putTable x (← putWith e.hash e.key e.value ((← get).tableOf x))
    putEntries x es

/-- Puts what an object holds under keys into a dictionary. -/
def putParts? (x y : Obj) : List Obj → Run Unit
  | [] => return ()
  | key :: keys => do
    putItem x key (← partUnder y key)
    putParts? x y keys

/-- Puts into a dictionary what an object adds to it: a dictionary its entries, an object that tells
its keys what it holds under them, and any other one its elements, which have to be pairs. -/
def updateFrom (x y : Obj) : Run Unit := do
  let w ← get
  match w.body y, w.special? y "__iter__" with
  | .dict t, some (.held .dict _) => putEntries x t
  | _, _ =>
    match ← take? y "keys" with
    | none => do putPairs x 0 (← elementsOf y)
    | some f => do
      let told ← apply f []
      match ← elements? told with
      | some ks => putParts? x y ks
      | none => do
        let w ← get
        throw (.badType (w.clippedTitle y ++ ".keys() returned a non-iterable (type "
          ++ w.clippedTitle told ++ ")"))

/-- Puts the arguments of a call into a dictionary. -/
def updateByCall (x : Obj) (name : String) (a : Operands) : Run Unit := do
  match ← takeBetween name name 0 1 (.ofList a.positional) with
  | y :: _ => updateFrom x y
  | [] => pure ()
  for k in a.keywords do
    putItem x k.1 k.2

/-! ## Views -/

/-- The entries of a table as pairs. -/
def pairsOf (t : Table) : Run (List Obj) :=
  t.mapM fun e => newTuple [e.key, e.value]

/-- The elements of a view. -/
def viewElements (t : BuiltinType) (x : Obj) : Run (List Obj) := do
  let entries := (← get).tableOf x
  match t with
  | .valuesView => return entries.values
  | .entriesView => pairsOf entries
  | _ => return entries.keys

/-- The type of the iterators over a view. -/
def viewIteratorType : BuiltinType → BuiltinType
  | .valuesView => .valueIterator
  | .entriesView => .entryIterator
  | _ => .keyIterator

/-- The type of the iterators over a view from behind. -/
def viewReverseIteratorType : BuiltinType → BuiltinType
  | .valuesView => .valueReverseIterator
  | .entriesView => .entryReverseIterator
  | _ => .keyReverseIterator

/-- Whether an entry stands in a table. -/
def holdsEntry (t : Table) (x : Obj) : Run Bool := do
  match (← get).body x with
  | .tuple [key, y] =>
    match ← valueUnder? t key with
    | some z => isSame z y
    | none => return false
  | _ => return false

/-- Whether all elements are held. -/
def allHeld (isHeld : Obj → Run Bool) : List Obj → Run Bool
  | [] => return true
  | x :: xs => do
    if ← isHeld x then allHeld isHeld xs else return false

/-- Whether a view holds an element. -/
def viewHolds (t : BuiltinType) (x y : Obj) : Run Bool := do
  let entries := (← get).tableOf x
  if t == .entriesView then holdsEntry entries y
  else return (← valueUnder? entries y).isSome

/-- The answer of a comparison of views of keys or entries, which is one of sets. -/
def viewComparison (c : Comparison) (x y : Obj) : Run Obj := do
  let w ← get
  let isSet := w.isOf y .set || w.isOf y .keysView || w.isOf y .entriesView
  if !isSet then return .unknownOperand
  else
    let m ← lengthOf x
    let n ← lengthOf y
    let within (x y : Obj) : Run Bool := do
      let xs ← elementsOf x
      allHeld (fun e => do truthOf ((← callSpecial? y "__contains__" [e]).getD (.bool false))) xs
    match c with
    | .eq => Obj.bool <$> (pure (m == n) <&&> within x y)
    | .ne => Obj.bool <$> not <$> (pure (m == n) <&&> within x y)
    | .lt => Obj.bool <$> (pure (m < n : Bool) <&&> within x y)
    | .le => Obj.bool <$> (pure (m ≤ n : Bool) <&&> within x y)
    | .gt => Obj.bool <$> (pure (n < m : Bool) <&&> within y x)
    | .ge => Obj.bool <$> (pure (n ≤ m : Bool) <&&> within y x)

/-- An operator of views. -/
def viewOperator (t : BuiltinType) (name : String) (x : Obj) (a : Operands) : Run Obj := do
  match name with
  | "__len__" => do
    let _ ← expect name 0 a
    newInt ((← get).tableOf x).length
  | "__iter__" => do
    let _ ← expect name 0 a
    newTableIterator (viewIteratorType t) x
  | "__contains__" => do return .bool (← viewHolds t x (← expectOne name a))
  | _ =>
    match Comparison.ofName? name with
    | some c => do viewComparison c x (← expectOne name a)
    | none => notProvided (t.name ++ "." ++ name)

/-- A method of views. -/
def viewMethod (t : BuiltinType) (name function : String) (x : Obj) (a : Operands) : Run Obj := do
  match name with
  | "__reversed__" => do
    takeNone function a
    newTableIterator (viewReverseIteratorType t) x
  | "isdisjoint" => do
    let ys ← elementsOf (← takeOne function a)
    return .bool (← allHeld (fun y => do return !(← viewHolds t x y)) ys)
  | _ => notProvided function

/-! ## Dictionaries -/

/-- Whether the values of the first table are equal to what the second one holds under their keys.
-/
def entriesEqual (u : Table) : Table → Run Bool
  | [] => return true
  | e :: es => do
    match ← entryWith? e.hash e.key u with
    | none => return false
    | some f => if ← isSame e.value f.value then entriesEqual u es else return false

/-- Two dictionaries in one. -/
def mergedWith (x y : Obj) : Run Obj := do
  let w ← get
  match w.body x, w.body y with
  | .dict t, .dict _ => do
    let d ← newDict t
    updateFrom d y
    return d
  | _, _ => return .unknownOperand

/-- Whether two dictionaries are equal, if both are dictionaries. -/
def dictEqual (x y : Obj) : Run (Option Bool) := do
  let w ← get
  match w.body x, w.body y with
  | .dict t, .dict u =>
    if t.length != u.length then return some false else some <$> entriesEqual u t
  | _, _ => return none

/-- A dictionary of a class with one object under many keys. -/
def withKeys (c keys y : Obj) : Run Obj := do
  let d ← apply c []
  let w ← get
  let put (key : Obj) : Run Unit :=
    if w.isExactly d .dict then putItem d key y else storeUnder d key y
  for key in ← elementsOf keys do
    put key
  return d

/-- A dictionary with one object under many keys, by the arguments of a call. -/
def fromKeys (c : Obj) (a : Operands) : Run Obj := do
  match ← takeBetween "dict.fromkeys" "fromkeys" 1 2 a with
  | keys :: rest => withKeys c keys (rest.headD .none)
  | [] => return .none

/-- A dictionary whose order counts with one object under many keys, by the arguments of a call. -/
def orderedFromKeys (c : Obj) (a : Operands) : Run Obj := do
  let given ← passBetween 1 2 "fromkeys" ["iterable", "value"] a
  withKeys c ((givenAt given 0).getD .none) ((givenAt given 1).getD .none)

/-- A method of a dictionary. -/
def dictMethod (name function : String) (x : Obj) (a : Operands) : Run Obj := do
  let t := (← get).tableOf x
  match name with
  | "get" =>
    match ← takeBetween function "get" 1 2 a with
    | key :: rest => return (← valueUnder? t key).getD (rest.headD .none)
    | [] => return .none
  | "keys" => do
    takeNone function a
    makeOf .keysView (.view x)
  | "values" => do
    takeNone function a
    makeOf .valuesView (.view x)
  | "items" => do
    takeNone function a
    makeOf .entriesView (.view x)
  | "copy" => do
    takeNone function a
    newDict t
  | "clear" => do
    takeNone function a
    putTable x []
    return .none
  | "setdefault" =>
    match ← takeBetween function "setdefault" 1 2 a with
    | key :: rest => do
      match ← valueUnder? t key with
      | some y => return y
      | none => do
        let y := rest.headD .none
        putItem x key y
        return y
    | [] => return .none
  | "pop" =>
    match ← takeBetween function "pop" 1 2 a with
    | key :: rest => do
      let found ← if t.isEmpty then pure none else valueUnder? t key
      match found, rest with
      | some y, _ => do
        removeKey x key
        return y
      | none, y :: _ => return y
      | none, [] => noEntry key
    | [] => return .none
  | "popitem" => do
    takeNone function a
    match t.getLast? with
    | some e => do
      let places := ((← get).entity? x).bind Entity.places
      putTable x t.dropLast
      let last := match places with
        | some p => p.taken.getLastD 0
        | none => t.length - 1
      change x fun e => { e with places := e.places.map fun p => p.trimmed last }
      newTuple [e.key, e.value]
    | none => throw (.ordinary .noKey "'popitem(): dictionary is empty'")
  | "update" => do
    updateByCall x "update" a
    return .none
  | "__contains__" => do
    let key ← takeOne function a
    return .bool (← valueUnder? t key).isSome
  | "__getitem__" => do entryUnder x (← takeOne function a)
  | "__reversed__" => do
    takeNone function a
    newTableIterator .keyReverseIterator x
  | _ => notProvided function

/-- An operator of dictionaries. -/
def dictOperator (name : String) (x : Obj) (a : Operands) : Run Obj := do
  match name with
  | "__len__" => do
    let _ ← expect name 0 a
    newInt ((← get).tableOf x).length
  | "__iter__" => do
    let _ ← expect name 0 a
    newTableIterator .keyIterator x
  | "__setitem__" => do
    match ← expectBetween name 2 2 a with
    | [key, y] => putItem x key y
    | _ => pure ()
    return .none
  | "__delitem__" => do
    removeKey x (← expectOne name a)
    return .none
  | "__or__" => do mergedWith x (← expectOne name a)
  | "__ror__" => do mergedWith (← expectOne name a) x
  | "__ior__" => do
    updateFrom x (← expectOne name a)
    return x
  | _ =>
    match Comparison.ofName? name with
    | some .eq => do
      return ((← dictEqual x (← expectOne name a)).map Obj.bool).getD .unknownOperand
    | some .ne => do
      return ((← dictEqual x (← expectOne name a)).map fun b => Obj.bool !b).getD .unknownOperand
    | some _ => do
      let _ ← expectOne name a
      return .unknownOperand
    | none => notProvided ("dict." ++ name)

/-! ## What is only read -/

/-- What a dictionary that is only read shows, if that is an object of its own. -/
def World.shownBy? (w : World) (x : Obj) : Option Obj :=
  match w.body x with
  | .readOnly y => some y
  | _ => none

/-- What is behind a dictionary that is only read: what it shows, or else a dictionary of what its
class holds; any other object is behind itself. -/
def behindReadOnly (x : Obj) : Run Obj := do
  let w ← get
  match w.shownBy? x with
  | some y => return y
  | none => if w.isOf x .readOnlyDict then newDict (w.tableOf x) else return x

/-- Whether an object holds another one. -/
def holds (x y : Obj) : Run Bool := do
  match ← callSpecial? x "__contains__" [y] with
  | some answer => truthOf answer
  | none => isAmong y (← elementsOr
      ("argument of type '" ++ (← get).clippedTitle x ++ "' is not iterable") x)

/-- A method of what a class holds, seen as a dictionary. -/
def classDictMethod (name function : String) (x : Obj) (a : Operands) : Run Obj := do
  let t := (← get).tableOf x
  match name with
  | "get" =>
    match ← takeBetween function "get" 1 2 a with
    | key :: rest => return (← valueUnder? t key).getD (rest.headD .none)
    | [] => return .none
  | "copy" => do
    takeNone function a
    newDict t
  | "keys" => do
    takeNone function a
    makeOf .keysView (.view x)
  | "values" => do
    takeNone function a
    makeOf .valuesView (.view x)
  | "items" => do
    takeNone function a
    makeOf .entriesView (.view x)
  | "__reversed__" => do
    takeNone function a
    newTableIterator .keyReverseIterator x
  | _ => notProvided function

/-- A method of a dictionary that is only read. -/
def readOnlyMethod (name function : String) (x : Obj) (a : Operands) : Run Obj := do
  match (← get).shownBy? x with
  | none => classDictMethod name function x a
  | some y =>
    if name == "get" then do
      let given ← takeBetween function "get" 1 2 a
      callAttribute y name (given ++ (if given.length == 1 then [.none] else []))
    else do
      takeNone function a
      callAttribute y name []

/-- An operator of what a class holds, seen as a dictionary. -/
def classDictOperator (name : String) (x : Obj) (a : Operands) : Run Obj := do
  let t := (← get).tableOf x
  match name with
  | "__len__" => do
    let _ ← expect name 0 a
    newInt t.length
  | "__iter__" => do
    let _ ← expect name 0 a
    newTableIterator .keyIterator x
  | "__contains__" => do return .bool (← valueUnder? t (← expectOne name a)).isSome
  | _ => do
    let key ← expectOne name a
    match ← valueUnder? t key with
    | some y => return y
    | none => noEntry key

/-- An operator of a dictionary that is only read. -/
def readOnlyOperator (name : String) (x : Obj) (a : Operands) : Run Obj := do
  match Comparison.ofName? name, name with
  | some c, _ => do
    let y ← expectOne name a
    compare c (← behindReadOnly x) y
  | none, "__or__" => do
    let y ← behindReadOnly (← expectOne name a)
    binary "or" "|" (← behindReadOnly x) y
  | none, "__ror__" => do
    let y ← behindReadOnly (← expectOne name a)
    binary "or" "|" y (← behindReadOnly x)
  | none, "__ior__" => do
    let _ ← expectOne name a
    throw (.badType ("'|=' is not supported by " ++ (← get).typeTitle x ++ "; use '|' instead"))
  | none, "__str__" => do
    let _ ← expect name 0 a
    plainOf (← behindReadOnly x)
  | none, name =>
    match (← get).shownBy? x with
    | none => classDictOperator name x a
    | some y =>
      match name with
      | "__len__" => do
        let _ ← expect name 0 a
        newInt (← lengthOf y)
      | "__iter__" => do
        let _ ← expect name 0 a
        iteratorOf y
      | "__contains__" => do return .bool (← holds y (← expectOne name a))
      | "__getitem__" => do partUnder y (← expectOne name a)
      | _ => notProvided ("mappingproxy." ++ name)

end StubClass
