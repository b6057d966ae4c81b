import StubClass.Object.Scatter
import StubClass.Ordinary.Iterator

set_option autoImplicit false

/-! # Sets

Sets of objects, put together from one another: methods take anything that can be gone through,
operators only other sets. The views of the keys and of the entries of a dictionary are put together
to sets in the same way, and may go with anything. -/

namespace StubClass

namespace World

/-- The places of a set. -/
def scatter (w : World) (x : Obj) : Scatter :=
  match w.body x with
  | .set s => s
  | _ => {}

/-- Whether an object is a set. -/
def isSet (w : World) (x : Obj) : Bool :=
  match w.body x with
  | .set _ => true
  | _ => false

/-- The keys with their hashes that stand in a set or a plain dictionary. -/
def hashedKeys? (w : World) (x : Obj) : Option Table :=
  match w.body x with
  | .set s => some s.entries
  | .dict t => if w.isExactly x .dict then some t else none
  | _ => none

end World

/-! ## Putting together -/

/-- A set. -/
def newSet (s : Scatter) : Run Obj :=
  makeOf .set (.set s)

/-- Gives a set other objects. -/
def putScatter (x : Obj) (s : Scatter) : Run Unit :=
  putBody x (.set s)

/-- What an object gives when it is gone through, with hashes. -/
def hashedElements (y : Obj) : Run Table := do
  match (← get).hashedKeys? y with
  | some t => return t
  | none => (← elementsOf y).mapM fun x => do return ⟨← hashOf x, x, .none⟩

/-- A set with all that an object gives. -/
def withElements (s : Scatter) (y : Obj) : Run Scatter := do
  let w ← get
  match w.body y, w.hashedKeys? y with
  | .set t, _ => s.merge t
  | _, some t => do (← s.roomFor t.length).addAll t
  | _, none => (← elementsOf y).foldlM (fun s x => do s.add (← hashOf x) x) s

/-- The set of all that an object gives. -/
def scatterOf (y : Obj) : Run Scatter :=
  withElements {} y

/-- A set without all that an object gives. -/
def withoutElements (s : Scatter) (y : Obj) : Run Scatter := do
  let taken ← match (← get).hashedKeys? y with
    | some t => t.foldlM (fun s e => do return (← s.remove e.hash e.key).1) s
    | none => (← elementsOf y).foldlM (fun s x => do return (← s.remove (← hashOf x) x).1) s
  taken.cleaned

/-- The objects of a set that are not held. -/
def filtered (isHeld : Entry → Run Bool) (s : Scatter) : Run Scatter :=
  s.entries.foldlM (fun t e => do if ← isHeld e then return t else t.add e.hash e.key) {}

/-- What is in a set but not among what an object gives. -/
def differenceOf (s : Scatter) (y : Obj) : Run Scatter := do
  let w ← get
  match w.body y, w.hashedKeys? y with
  | .set t, _ =>
    if t.size < s.size / 4 then do withoutElements (← Scatter.merge {} s) y
    else filtered (fun e => t.holds e.hash e.key) s
  | _, some t =>
    if t.length < s.size / 4 then do withoutElements (← Scatter.merge {} s) y
    else filtered (fun e => do return (← entryWith? e.hash e.key t).isSome) s
  | _, none => do withoutElements (← Scatter.merge {} s) y

/-- What is both in a set and among what an object gives. -/
def intersectionOf (s : Scatter) (y : Obj) : Run Scatter := do
  let w ← get
  let common (t : Table) (s : Scatter) : Run Scatter :=
    t.foldlM (fun r e => do
      if ← s.holds e.hash e.key then r.add e.hash e.key else return r) {}
  match w.body y with
  | .set t => if s.size < t.size then common s.entries t else common t.entries s
  | _ => (← elementsOf y).foldlM (fun r x => do
      let h ← hashOf x
      if ← s.holds h x then r.add h x else return r) {}

/-- A set with what an object gives and it has not, and without what both have. -/
def exchanged (s : Scatter) (y : Obj) : Run Scatter := do
  let other ← match (← get).hashedKeys? y with
    | some t => pure t
    | none => do pure (← scatterOf y).entries
  other.foldlM (fun s e => do
    let (rest, isThere) ← s.remove e.hash e.key
    if isThere then return rest else s.add e.hash e.key) s

/-- Whether all of some keys are in a set. -/
def holdsAll (s : Scatter) : Table → Run Bool
  | [] => return true
  | e :: es => do
    if ← s.holds e.hash e.key then holdsAll s es else return false

/-- Whether a set is part of another one. -/
def isWithin (s t : Scatter) : Run Bool :=
  if t.size < s.size then return false else holdsAll t s.entries

/-! ## One object -/

/-- Asks a set for an object. A set, which has no hash, counts as one that is not there. -/
def askSet {α : Type} (otherwise : α) (y : Obj) (r : Hash → Run α) : Run α := do
  match ← catching (fun e => e.isA .badType) (hashOf y) with
  | some h => r h
  | none => if (← get).isSet y then return otherwise else r (← hashOf y)

/-- Whether an object is in a set. -/
def isInSet (x y : Obj) : Run Bool :=
  askSet false y fun h => do ((← get).scatter x).holds h y

/-- Takes an object out of a set; says whether it was there. -/
def takeOut (x y : Obj) : Run Bool :=
  askSet false y fun h => do
    let (s, isThere) ← ((← get).scatter x).remove h y
    putScatter x s
    return isThere

/-! ## Methods -/

/-- A set that is changed by one object after another. -/
def changedBy (f : Scatter → Obj → Run Scatter) (s : Scatter) (ys : List Obj) : Run Scatter :=
  ys.foldlM f s

/-- Whether a set has nothing that an object gives. -/
def isApartFrom (x y : Obj) : Run Bool := do
  let w ← get
  let s := w.scatter x
  if x == y then return s.size == 0
  else
    match w.body y with
    | .set t =>
      let (few, many) := if s.size < t.size then (s, t) else (t, s)
      allApart many few.entries
    | _ => noneHeld s (← elementsOf y)
where
  /-- Whether none of some keys is in a set. -/
  allApart (s : Scatter) : Table → Run Bool
    | [] => return true
    | e :: es => do
      if ← s.holds e.hash e.key then return false else allApart s es
  /-- Whether none of some objects is in a set. -/
  noneHeld (s : Scatter) : List Obj → Run Bool
    | [] => return true
    | y :: ys => do
      if ← s.holds (← hashOf y) y then return false else noneHeld s ys

/-- Whether a set has all that an object gives. -/
def holdsElements (s : Scatter) : List Obj → Run Bool
  | [] => return true
  | y :: ys => do
    if ← s.holds (← hashOf y) y then holdsElements s ys else return false

/-- A set taken apart into its class, its objects and its attributes. -/
def setParts (x : Obj) : Run Obj := do
  let w ← get
  let elements ← newList (w.scatter x).entries.keys
  let given ← newTuple [elements]
  let attributes ← match (w.entity? x).bind Entity.dict with
    | some d => if ((w.table? d).getD []).isEmpty then pure .none else pure d
    | none => pure .none
  newTuple [w.typeOf x, given, attributes]

/-- A method of a set. -/
def setMethod (name function : String) (x : Obj) (a : Operands) : Run Obj := do
  let s := (← get).scatter x
  let change (r : Run Scatter) : Run Obj := do
    putScatter x (← r)
    return .none
  match name with
  | "add" => do
    let y ← takeOne function a
    change (do s.add (← hashOf y) y)
  | "clear" => do
    takeNone function a
    change (pure {})
  | "copy" => do
    takeNone function a
    newSet (← Scatter.merge {} s)
  | "discard" => do
    let _ ← takeOut x (← takeOne function a)
    return .none
  | "remove" => do
    let y ← takeOne function a
    if ← takeOut x y then return .none else noEntry y
  | "pop" => do
    takeNone function a
    match s.pop? with
    | some (e, s) => do
      putScatter x s
      return e.key
    | none => throw (.ordinary .noKey "'pop from an empty set'")
  | "update" => do
    change (changedBy withElements s (← byPosition function a))
  | "union" => do
    let ys ← byPosition function a
    let copy ← Scatter.merge {} s
    newSet (← changedBy withElements copy (ys.filter (· != x)))
  | "intersection" => do
    newSet (← changedBy intersectionOf (← Scatter.merge {} s) (← byPosition function a))
  | "intersection_update" => do
    change (do changedBy intersectionOf (← Scatter.merge {} s) (← byPosition function a))
  | "difference" => do
    match ← byPosition function a with
    | [] => do newSet (← Scatter.merge {} s)
    | y :: ys => do newSet (← changedBy withoutElements (← differenceOf s y) ys)
  | "difference_update" => do
    change (changedBy withoutElements s (← byPosition function a))
  | "symmetric_difference" => do
    newSet (← exchanged (← scatterOf (← takeOne function a)) x)
  | "symmetric_difference_update" => do
    let y ← takeOne function a
    change (if y == x then pure {} else exchanged s y)
  | "isdisjoint" => do return .bool (← isApartFrom x (← takeOne function a))
  | "issubset" => do
    let y ← takeOne function a
    match (← get).body y with
    | .set t => return .bool (← isWithin s t)
    | _ => return .bool ((← intersectionOf s y).size == s.size)
  | "issuperset" => do
    let y ← takeOne function a
    match (← get).body y with
    | .set t => return .bool (← isWithin t s)
    | _ => return .bool (← holdsElements s (← elementsOf y))
  | "__contains__" => do return .bool (← isInSet x (← takeOne function a))
  | "__reduce__" => do
    takeNone function a
    setParts x
  | "__sizeof__" => do
    takeNone function a
    newInt (if s.spots.size ≤ 8 then 200 else 200 + 16 * s.spots.size)
  | _ => notProvided function

/-! ## Operators -/

/-- The set that an operator puts together from two sets. -/
def combineSets (name : String) (s : Scatter) (y : Obj) : Run Scatter :=
  match name with
  | "or" => do withElements (← Scatter.merge {} s) y
  | "and" => intersectionOf s y
  | "sub" => differenceOf s y
  | _ => do
    let t ← scatterOf y
    s.entries.foldlM (fun t e => do
      let (rest, isThere) ← t.remove e.hash e.key
      if isThere then return rest else t.add e.hash e.key) t

/-- The names of the operators that put sets together. -/
def setOperators : List String :=
  ["and", "or", "sub", "xor"]

/-- The answer of a comparison of sets. -/
def setComparison (c : Comparison) (x y : Obj) : Run Obj := do
  let w ← get
  if !w.isSet y then return .unknownOperand
  else
    let s := w.scatter x
    let t := w.scatter y
    match c with
    | .eq => Obj.bool <$> (pure (s.size == t.size) <&&> isWithin s t)
    | .ne => Obj.bool <$> not <$> (pure (s.size == t.size) <&&> isWithin s t)
    | .le => return .bool (← isWithin s t)
    | .ge => return .bool (← isWithin t s)
    | .lt => Obj.bool <$> (pure (s.size < t.size : Bool) <&&> isWithin s t)
    | .gt => Obj.bool <$> (pure (t.size < s.size : Bool) <&&> isWithin t s)

/-- Fills a set anew with what can be gone through. -/
def setUpSet (x : Obj) (a : Operands) : Run Unit := do
  if !a.keywords.isEmpty then throw (.badType "set() takes no keyword arguments")
  else
    let given ← takeBetween "set" "set" 0 1 (.ofList a.positional)
    putScatter x {}
    match given with
    | y :: _ => do putScatter x (← withElements {} y)
    | [] => return ()

/-- Calls an operator of sets. -/
def setOperator (name : String) (x : Obj) (a : Operands) : Run Obj := do
  let w ← get
  match name with
  | "__init__" => do
    setUpSet x a
    return .none
  | "__len__" => do
    let _ ← expect name 0 a
    newInt (w.scatter x).size
  | "__iter__" => do
    let _ ← expect name 0 a
    newTableIterator .setIterator x
  | _ =>
    match Comparison.ofName? name with
    | some c => do setComparison c x (← expectOne name a)
    | none => do
      let y ← expectOne name a
      let within (start : String) : Option String :=
        setOperators.find? fun n => name == "__" ++ start ++ n ++ "__"
      if !w.isSet y then return .unknownOperand
      else
        match within "", within "r", within "i" with
        | some n, _, _ => do newSet (← combineSets n (w.scatter x) y)
        | none, some n, _ => do newSet (← combineSets n (w.scatter y) x)
        | none, none, some n => do
          let s ← match n with
            | "or" => withElements (w.scatter x) y
            | "sub" => if x == y then pure {} else withoutElements (w.scatter x) y
            | "and" => intersectionOf (w.scatter x) y
            | _ => if x == y then pure {} else exchanged (w.scatter x) y
          putScatter x s
          return x
        | none, none, none => notProvided ("set." ++ name)

/-! ## Views -/

/-- The number of elements of a view or a set. -/
def World.elementCount (w : World) (x : Obj) : Nat :=
  (w.tableOf x).length

/-- The set of all that is both in a view and among what an object gives. -/
def viewIntersection (x y : Obj) : Run Obj := do
  let w ← get
  let isView (z : Obj) : Bool := w.isOf z .keysView || w.isOf z .entriesView
  if w.isExactly y .set && w.elementCount x ≤ w.elementCount y then
    callAttribute y "intersection" [x]
  else
    let (x, y) := if isView y && w.elementCount x < w.elementCount y then (y, x) else (x, y)
    let t : BuiltinType := if w.isOf x .entriesView then .entriesView else .keysView
    let common ← (← elementsOf y).foldlM (fun (s : Scatter) e => do
      if ← viewHolds t x e then s.add (← hashOf e) e else return s) {}
    newSet common

/-- The set that an operator puts together from two objects, one of which is a view. -/
def combineViews (name : String) (x y : Obj) : Run Obj := do
  let w ← get
  let isView (z : Obj) : Bool := w.isOf z .keysView || w.isOf z .entriesView
  match name with
  | "and" => if isView x then viewIntersection x y else viewIntersection y x
  | "or" => do newSet (← withElements (← scatterOf x) y)
  | "sub" => do newSet (← withoutElements (← scatterOf x) y)
  | _ => do newSet (← exchanged (← scatterOf x) y)

/-- Calls an operator of a view of keys or entries. -/
def setViewOperator (t : BuiltinType) (name : String) (x : Obj) (a : Operands) : Run Obj := do
  let among (start : String) : Option String :=
    setOperators.find? fun n => name == "__" ++ start ++ n ++ "__"
  match among "", among "r" with
  | some n, _ => do combineViews n x (← expectOne name a)
  | none, some n => do combineViews n (← expectOne name a) x
  | none, none => viewOperator t name x a

end StubClass
