import StubClass.Object.Compare

set_option autoImplicit false

/-! # Going through

What can be gone through gives an iterator, and that its objects one after another. An iterator over
a sequence, a dictionary or a set sees what that holds when the next object is asked for; one over a
dictionary or a set fails when the number of entries is not what it was. -/

namespace StubClass

/-! ## Going through -/

/-- The failure of an object that cannot be gone through. -/
def notIterable {α : Type} (x : Obj) : Run α := do
  throw (.badType ("'" ++ (← get).clippedTitle x ++ "' object is not iterable"))

/-- How many objects are asked for one after another at most. -/
def maxSteps : Nat := 20000

/-- What a question with the numbers from one on is answered, up to the first number that there is
no answer for. -/
def answersFrom (ask : Nat → Run Obj) : (fuel : Nat) → (next : Nat) → Run (List Obj)
  | 0, _ => throw (.ordinary .memory "")
  | fuel + 1, next => do
    let isEnd (e : Failure) : Bool := e.isA .badIndex || e.isA .stopped
    match ← catching isEnd (ask next) with
    | none => return []
    | some x => return x :: (← answersFrom ask fuel (next + 1))

/-- An iterator over an object. -/
def iteratorOf (x : Obj) : Run Obj := do
  let w ← get
  match w.special? x "__iter__", w.special? x "__getitem__" with
  | some .none, _ => notIterable x
  | some hook, _ => do
    let it ← callHook x hook []
    let w ← get
    if (w.special? it "__next__").isSome then return it
    else throw (.badType ("iter() returned non-iterator of type '" ++ w.clippedTitle it ++ "'"))
  | none, some hook =>
    if (w.table? x).isSome then notIterable x
    else do
      let xs ← answersFrom (fun i => do callHook x hook [← newInt i]) maxSteps 0
      makeOf .listIterator (.iterator xs)
  | none, none => notIterable x

/-! ## Sequences -/

/-- The parts of a sequence from a number on. -/
def sequenceParts (x : Obj) (next : Nat) : Run (List Obj) := do
  match (← get).body x with
  | .list xs | .tuple xs => return xs.drop next
  | .str text => (text.toList.drop next).mapM fun c => newText c.toString
  | .bytes bs => (bs.drop next).mapM fun b => newInt b.toNat
  | .applied origin arguments _ =>
    if next == 0 then do return [← makeOf .appliedType (.applied origin arguments true)]
    else return []
  | _ => return []

/-- The number of parts of a sequence. -/
def Body.partCount : Body → Nat
  | .str text => text.length
  | .bytes bs => bs.length
  | .list xs | .tuple xs => xs.length
  | .dict t => t.length
  | .set s => s.size
  | .applied _ _ _ => 1
  | _ => 0

/-- The part of a sequence under a number. -/
def sequencePart? (x : Obj) (index : Nat) : Run (Option Obj) := do
  match (← get).body x with
  | .list xs | .tuple xs => return xs[index]?
  | .str text => (text.toList[index]?).mapM fun c => newText c.toString
  | .bytes bs => (bs[index]?).mapM fun b => newInt b.toNat
  | .applied _ _ _ => return (← sequenceParts x index).head?
  | _ => return none

/-- The next part for an iterator over a sequence. -/
def nextPart? (it x : Obj) (next : Int) : Run (Option Obj) := do
  let isBackward := (← get).isExactly it .listReverseIterator
  match ← if 0 ≤ next then sequencePart? x next.toNat else pure none with
  | some y => do
    putBody it (.sequenceIterator (some x) (if isBackward then next - 1 else next + 1))
    return some y
  | none => do
    putBody it (.sequenceIterator none (if isBackward then -1 else next))
    return none

/-! ## Dictionaries and sets -/

/-- What holds the entries that a view shows. -/
def World.holderOf (w : World) (x : Obj) : Obj :=
  match w.body x with
  | .view of =>
    match w.body of with
    | .view inner => inner
    | _ => of
  | _ => x

/-- The entries of what an object is or shows, with their places. -/
def World.placed (w : World) (x : Obj) : List (Nat × Entry) :=
  let holder := w.holderOf x
  match w.body holder with
  | .set s =>
    s.spots.toList.zipIdx.filterMap fun (p, i) =>
      match p with
      | .taken e => some (i, e)
      | _ => none
  | _ =>
    let t := w.heldTable holder
    match (w.entity? holder).bind Entity.places with
    | some p => p.taken.zip t
    | none => t.zipIdx.map fun (e, i) => (i, e)

/-- Whether the iterators of a type go through a dictionary from behind. -/
def BuiltinType.isBackward : BuiltinType → Bool
  | keyReverseIterator | valueReverseIterator | entryReverseIterator => true
  | _ => false

/-- An iterator of a type over what an object is or shows. -/
def newTableIterator (t : BuiltinType) (x : Obj) : Run Obj := do
  let w ← get
  let entries := w.placed x
  let last : Int := match (w.entity? (w.holderOf x)).bind Entity.places with
    | some p => (p.next : Int) - 1
    | none => (entries.length : Int) - 1
  makeOf t (.tableIterator
    ⟨some x, if t.isBackward then last else 0, entries.length, some entries.length⟩)

/-- What is left for an iterator, from its place on. -/
def World.entriesFrom (w : World) (t : BuiltinType) (c : Cursor) : List (Nat × Entry) :=
  match c.of with
  | none => []
  | some x =>
    if t.isBackward then (w.placed x).reverse.dropWhile fun p => c.place < (p.1 : Int)
    else (w.placed x).dropWhile fun p => (p.1 : Int) < c.place

/-- The failure of an iterator over what was changed. -/
def changedBelow {α : Type} (words : String) : Run α :=
  throw (.ordinary .runtime words)

/-- Refuses to go on when the number of entries is not what it was. -/
def requireSize (it : Obj) (t : BuiltinType) (c : Cursor) : Run Unit := do
  let w ← get
  let count := (c.of.map fun x => (w.tableOf x).length).getD 0
  if c.of.isSome && c.size != some count then do
    putBody it (.tableIterator { c with size := none })
    changedBelow ((if t == .setIterator then "Set" else "dictionary")
      ++ " changed size during iteration")
  else return ()

/-- What an iterator of a type gives for an entry. -/
def givenFor (t : BuiltinType) (e : Entry) : Run Obj :=
  match t with
  | .valueIterator | .valueReverseIterator => return e.value
  | .entryIterator | .entryReverseIterator => newTuple [e.key, e.value]
  | _ => return e.key

/-- The next object for an iterator over a dictionary or a set. -/
def nextEntry? (it : Obj) (t : BuiltinType) (c : Cursor) : Run (Option Obj) := do
  requireSize it t c
  let stop : Run Unit := putBody it (.tableIterator { c with of := none })
  match (← get).entriesFrom t c with
  | [] => do
    stop
    return none
  | (place, e) :: _ =>
    if c.left == 0 && !t.isBackward && t != .setIterator then do
      stop
      changedBelow "dictionary keys changed during iteration"
    else do
      let place : Int := if t.isBackward then (place : Int) - 1 else (place : Int) + 1
      putBody it (.tableIterator { c with place, left := c.left - 1 })
      some <$> givenFor t e

/-! ## Dictionaries whose order counts -/

/-- An iterator over a dictionary whose order counts, which gives what the iterators of a type over
other dictionaries do. -/
def newOrderedIterator (like : BuiltinType) (x : Obj) : Run Obj := do
  let keys := ((← get).tableOf x).keys
  makeOf .orderedIterator
    (.orderedIterator ⟨some x, like, keys, if like.isBackward then keys.reverse else keys⟩)

/-- The next object for an iterator over a dictionary whose order counts. -/
def nextOrdered? (it : Obj) (c : OrderedCursor) : Run (Option Obj) := do
  let w ← get
  let entries := (c.of.map w.tableOf).getD []
  let stop : Run Unit := putBody it (.orderedIterator { c with of := none })
  match c.of, c.rest with
  | none, _ => return none
  | some _, [] => do
    stop
    return none
  | some _, key :: rest =>
    if entries.keys != c.keys then do
      stop
      changedBelow "OrderedDict mutated during iteration"
    else do
      putBody it (.orderedIterator { c with rest })
      match entries.find? fun e => e.key == key with
      | some e => some <$> givenFor c.like e
      | none => return none

/-- All that is left for an iterator over a dictionary whose order counts. -/
def drainedOrdered (it : Obj) (c : OrderedCursor) : Run (List Obj) := do
  let w ← get
  let entries := (c.of.map w.tableOf).getD []
  putBody it (.orderedIterator { c with of := none })
  if c.of.isNone || c.rest.isEmpty then return []
  else if entries.keys != c.keys then changedBelow "OrderedDict mutated during iteration"
  else c.rest.filterMapM fun key => (entries.find? fun e => e.key == key).mapM (givenFor c.like)

/-! ## Any iterator -/

/-- The type of an iterator that is of a built-in one. -/
def World.iteratorType (w : World) (it : Obj) : BuiltinType :=
  match w.typeOf it with
  | .type t => t
  | _ => .object

/-- The next object of an iterator of a built-in type. -/
def nextOf? (it : Obj) : Run (Option Obj) := do
  let w ← get
  match w.body it with
  | .iterator (y :: ys) => do
    putBody it (.iterator ys)
    return some y
  | .producer p =>
    match p.progress, p.rest with
    | .created, y :: ys | .suspended, y :: ys => do
      putBody it (.producer { p with rest := ys, progress := .suspended })
      return some y
    | _, _ => do
      putBody it (.producer { p with progress := .finished })
      return none
  | .sequenceIterator (some x) next => nextPart? it x next
  | .tableIterator c => nextEntry? it (w.iteratorType it) c
  | .orderedIterator c => nextOrdered? it c
  | _ => return none

/-- All that is left of an iterator of a built-in type. -/
def drained (it : Obj) : Run (List Obj) := do
  let w ← get
  match w.body it with
  | .iterator rest => do
    putBody it (.iterator [])
    return rest
  | .producer p => do
    putBody it (.producer { p with rest := [], progress := .finished })
    return if p.progress == .finished then [] else p.rest
  | .sequenceIterator (some x) next => do
    let isBackward := w.isExactly it .listReverseIterator
    putBody it (.sequenceIterator none (if isBackward then -1 else (w.body x).partCount))
    if isBackward then
      if next < (w.body x).partCount then
        return (((w.parts? x).getD []).take (next + 1).toNat).reverse
      else return []
    else sequenceParts x next.toNat
  | .tableIterator c => do
    let t := w.iteratorType it
    requireSize it t c
    let rest := w.entriesFrom t c
    putBody it (.tableIterator { c with of := none })
    if c.left < rest.length && !t.isBackward && t != .setIterator then
      changedBelow "dictionary keys changed during iteration"
    else rest.mapM fun p => givenFor t p.2
  | .orderedIterator c => drainedOrdered it c
  | _ => return []

/-- All that is left of an iterator. -/
def remaining (it : Obj) : Run (List Obj) := do
  let w ← get
  match w.special? it "__next__" with
  | some (.held _ _) => drained it
  | some hook => answersFrom (fun _ => callHook it hook []) maxSteps 0
  | none => throw (.badType ("'" ++ w.clippedTitle it ++ "' object is not an iterator"))

/-- The objects that an object gives when it is gone through. -/
def elementsOf (x : Obj) : Run (List Obj) := do
  let w ← get
  match w.special? x "__iter__", w.body x with
  | some (.held .list _), .list xs | some (.held .tuple _), .tuple xs => return xs
  | some (.held .dict _), .dict t => return t.keys
  | _, _ => do remaining (← iteratorOf x)

/-- The objects that an object gives when it is gone through; what cannot be is refused in words of
its own. -/
def elementsOr (refusal : String) (x : Obj) : Run (List Obj) := do
  let w ← get
  if w.isExactly x .list || w.isExactly x .tuple then elementsOf x
  else
    match ← catching (fun e => e.isA .badType) (iteratorOf x) with
    | some it => remaining it
    | none => throw (.badType refusal)

/-- Whether an object can be gone through, and what it gives. -/
def elements? (x : Obj) : Run (Option (List Obj)) := do
  let w ← get
  if (w.special? x "__iter__").isNone && (w.special? x "__getitem__").isNone then return none
  else some <$> elementsOf x

end StubClass
