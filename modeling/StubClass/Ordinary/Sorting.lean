import StubClass.Object.Iteration

set_option autoImplicit false

/-! # Sorting

A list is sorted by merging. Stretches that are in order already are found from left to right, short
ones are filled up by putting items into their places, and neighbouring stretches are merged at
moments that keep their lengths in balance. A merge takes items one at a time until one side has
been ahead often enough; then it looks for how far that side is ahead by strides. Items of equal
keys stay in order. Comparisons are asked of the keys, and one of them may fail: then the list stays
as far as it was sorted. -/

namespace StubClass.Sorting

/-- A key with what it is the key of. -/
abbrev Item := Obj × Obj

/-- Work on a state that stays as it is when a comparison fails. -/
abbrev Work (σ : Type) := ExceptT Failure (StateT σ Run)

/-- Asks something of keys. -/
def ask {σ α : Type} (r : Run α) : Work σ α :=
  ExceptT.mk (StateT.lift (tryCatch (Except.ok <$> r) fun e => pure (.error e)))

/-- Whether a key is below another one. Keys of one class are first asked as they are. -/
def isBelow (isUniform : Bool) (x y : Item) : Run Bool := do
  let direct ← if isUniform then askComparison .lt x.1 y.1 else pure none
  match direct with
  | some answer => truthOf answer
  | none => compares .lt x.1 y.1

/-! ## Finding places -/

/-- The number of the first item, between two numbers, that is not before a place, where all that
are before it come first. -/
def halve {σ : Type} (isBefore : Item → Work σ Bool) (xs : Array Item) (low high : Nat) :
    Work σ Nat := do
  if low < high then
    let middle := low + (high - low) / 2
    match xs[middle]? with
    | none => return low
    | some x =>
      if ← isBefore x then halve isBefore xs (middle + 1) high
      else halve isBefore xs low middle
  else return low
termination_by high - low

/-- Strides that get longer while they go on: the length of the last one that went on, and of the
first one that did not, or of the longest one there is. -/
def stride {σ : Type} (goesOn : Nat → Work σ Bool) (most : Nat) :
    (fuel last next : Nat) → Work σ (Nat × Nat)
  | 0, last, _ => return (last, most)
  | fuel + 1, last, next => do
    if most ≤ next then return (last, most)
    else if ← goesOn next then stride goesOn most fuel next (2 * next + 1)
    else return (last, next)

/-- The number of the first item that is not before a place, looked for by strides that start from
the item of a number. -/
def gallop {σ : Type} (isBefore : Item → Work σ Bool) (xs : Array Item) (start : Nat) :
    Work σ Nat := do
  let asked (i : Nat) : Work σ Bool :=
    match xs[i]? with
    | some x => isBefore x
    | none => return false
  if ← asked start then do
    let (last, next) ← stride (fun n => asked (start + n)) (xs.size - start) xs.size 0 1
    halve isBefore xs (start + last + 1) (start + next)
  else do
    let goesOn (n : Nat) : Work σ Bool := do return !(← asked (start - n))
    let (last, next) ← stride goesOn (start + 1) xs.size 0 1
    halve isBefore xs (start + 1 - next) (start - last)

/-! ## Merging -/

/-- How often one side has to be ahead before strides are tried, at first. -/
def patience : Nat := 7

/-- Two sorted stretches that are being merged, from their fronts or from behind. -/
structure Merge where
  isFromBehind : Bool
  left : Array Item
  right : Array Item
  /-- What was merged. -/
  merged : Array Item
  /-- How often one side has to be ahead before strides are tried. -/
  eagerness : Nat

namespace Merge

/-- All items in the order in which they are now. -/
def items (m : Merge) : Array Item :=
  if m.isFromBehind then m.left ++ m.right ++ m.merged else m.merged ++ m.left ++ m.right

/-- Whether nothing is left to compare. -/
def isOver (m : Merge) : Bool :=
  if m.isFromBehind then m.left.isEmpty || m.right.size ≤ 1
  else m.right.isEmpty || m.left.size ≤ 1

/-- The merge with the rest in its place, when nothing is left to compare. -/
def closed (m : Merge) : Merge :=
  { m with
    left := #[]
    right := #[]
    merged := if m.isFromBehind then m.right ++ m.left ++ m.merged
      else m.merged ++ m.right ++ m.left }

/-- The number of the item of a side that is the next one to be taken. -/
def nextIndex (m : Merge) (side : Array Item) : Nat :=
  if m.isFromBehind then side.size - 1 else 0

/-- How many items of a side are taken before those of a number. -/
def countTo (m : Merge) (side : Array Item) (place : Nat) : Nat :=
  if m.isFromBehind then side.size - place else place

/-- A side without the next items, and what was merged with them. -/
def split (m : Merge) (side : Array Item) (n : Nat) : Array Item × Array Item :=
  if m.isFromBehind then
    let rest := side.size - n
    (side.extract 0 rest, side.extract rest side.size ++ m.merged)
  else (side.extract n side.size, m.merged ++ side.extract 0 n)

/-- Takes the next items of the left side. -/
def takeLeft (n : Nat) (m : Merge) : Merge :=
  let (left, merged) := m.split m.left n
  { m with left, merged }

/-- Takes the next items of the right side. -/
def takeRight (n : Nat) (m : Merge) : Merge :=
  let (right, merged) := m.split m.right n
  { m with right, merged }

/-- Goes on with a merge unless nothing is left to compare. -/
def unlessOver (r : Work Merge Unit) : Work Merge Unit := do
  if (← get).isOver then return () else r

variable (below : Item → Item → Run Bool)

/-- Takes items one at a time, until one side has been ahead often enough. -/
def takeSingly : (fuel leftAhead rightAhead : Nat) → Work Merge Unit
  | 0, _, _ => return ()
  | fuel + 1, leftAhead, rightAhead => do
    let m ← get
    match m.left[m.nextIndex m.left]?, m.right[m.nextIndex m.right]? with
    | some x, some y =>
      if m.isOver || m.eagerness ≤ max leftAhead rightAhead then return ()
      else if (← ask (below y x)) != m.isFromBehind then do
        modify (takeRight 1)
        takeSingly fuel 0 (rightAhead + 1)
      else do
        modify (takeLeft 1)
        takeSingly fuel (leftAhead + 1) 0
    | _, _ => return ()

/-- Takes all items of the left side that come before the next one of the right side; says how many.
-/
def takeLeftRow : Work Merge Nat := do
  let m ← get
  match m.right[m.nextIndex m.right]? with
  | none => return 0
  | some y => do
    let place ← gallop (fun x => do return !(← ask (below y x))) m.left (m.nextIndex m.left)
    let n := m.countTo m.left place
    modify (takeLeft n)
    return n

/-- Takes all items of the right side that come before the next one of the left side; says how many.
-/
def takeRightRow : Work Merge Nat := do
  let m ← get
  match m.left[m.nextIndex m.left]? with
  | none => return 0
  | some x => do
    let place ← gallop (fun y => ask (below y x)) m.right (m.nextIndex m.right)
    let n := m.countTo m.right place
    modify (takeRight n)
    return n

/-- Takes items by strides as long as that pays. -/
def takeByRows : (fuel : Nat) → Work Merge Unit
  | 0 => return ()
  | fuel + 1 => do
    modify fun m => { m with eagerness := if 1 < m.eagerness then m.eagerness - 1 else m.eagerness }
    let n ← takeLeftRow below
    unlessOver do
      modify (takeRight 1)
      unlessOver do
        let k ← takeRightRow below
        unlessOver do
          modify (takeLeft 1)
          unlessOver do
            if patience ≤ max n k then takeByRows fuel
            else modify fun m => { m with eagerness := m.eagerness + 1 }

/-- Takes items until nothing is left to compare. -/
def takeAll : (fuel : Nat) → Work Merge Unit
  | 0 => return ()
  | fuel + 1 => do
    let m ← get
    takeSingly below (m.left.size + m.right.size) 0 0
    unlessOver do
      modify fun m => { m with eagerness := m.eagerness + 1 }
      takeByRows below (m.left.size + m.right.size)
      unlessOver (takeAll fuel)

/-- Merges two stretches whose first items are known to be in order: the first item of the right one
comes first, and the last item of the left one comes last. -/
def run : Work Merge Unit := do
  modify fun m => if m.isFromBehind then m.takeLeft 1 else m.takeRight 1
  let m ← get
  unlessOver (takeAll below (m.left.size + m.right.size))
  modify closed

end Merge

/-! ## Stretches -/

/-- A stretch of items in order: where it starts, how long it is, and how deep the boundary behind
it stands when the list is halved again and again. -/
structure Stretch where
  start : Nat
  length : Nat
  power : Nat := 0

/-- A list that is being sorted: its items, the stretches in order that were found, the last one
first, and how often one side of a merge has to be ahead before strides are tried. -/
structure Progress where
  items : Array Item
  stretches : List Stretch := []
  eagerness : Nat := patience

variable (below : Item → Item → Run Bool)

/-- Puts items into the list from a number on. -/
def putItems (start : Nat) (xs : Array Item) (p : Progress) : Progress :=
  { p with items := p.items.extract 0 start ++ xs
      ++ p.items.extract (start + xs.size) p.items.size }

/-- Merges two neighbouring stretches. What of the first one comes before all of the second one
stays, and so does what of the second one comes after all of the first one. -/
def mergeStretches (s t : Stretch) : Work Progress Stretch := do
  let p ← get
  let left := p.items.extract s.start (s.start + s.length)
  let right := p.items.extract t.start (t.start + t.length)
  match right[0]?, left[left.size - 1]? with
  | some y, some x => do
    let n ← gallop (fun x => do return !(← ask (below y x))) left 0
    if n < left.size then do
      let k ← gallop (fun y => ask (below y x)) right (right.size - 1)
      if 0 < k then do
        let left := left.extract n left.size
        let right := right.extract 0 k
        let isFromBehind := right.size < left.size
        let merging := (Merge.run below).run.run ⟨isFromBehind, left, right, #[], p.eagerness⟩
        let (answer, m) ← ask merging
        modify fun p => { putItems (s.start + n) m.items p with eagerness := m.eagerness }
        match answer with
        | .ok _ => pure ()
        | .error e => throw e
  | _, _ => pure ()
  return { s with length := s.length + t.length }

/-- How deep the boundary between two neighbouring stretches stands: how often the list has to be
halved until the middles of the two fall apart. All numbers are doubled. -/
def depthFrom (n : Nat) : (fuel depth a b : Nat) → Nat
  | 0, depth, _, _ => depth
  | fuel + 1, depth, a, b =>
    if n ≤ a then depthFrom n fuel (depth + 1) (2 * (a - n)) (2 * (b - n))
    else if n ≤ b then depth + 1
    else depthFrom n fuel (depth + 1) (2 * a) (2 * b)

/-- How deep the boundary stands between a stretch and one of a length behind it, in a list of so
many items. -/
def boundaryDepth (s : Stretch) (next total : Nat) : Nat :=
  let a := 2 * s.start + s.length
  depthFrom total (total + 1) 0 a (a + s.length + next)

/-- Merges stretches as long as the boundary before the last one is deeper than one; `fuel` bounds
how many there are. -/
def settle (power : Nat) : (fuel : Nat) → Work Progress Unit
  | 0 => return ()
  | fuel + 1 => do
    match (← get).stretches with
    | t :: s :: rest =>
      if power < s.power then do
        let merged ← mergeStretches below s t
        modify fun p => { p with stretches := merged :: rest }
        settle power fuel
    | _ => return ()

/-- Adds a stretch behind all others. -/
def addStretch (start length : Nat) : Work Progress Unit := do
  let p ← get
  match p.stretches with
  | [] => pure ()
  | s :: _ => do
    let power := boundaryDepth s length p.items.size
    settle below power p.stretches.length
    modify fun p =>
      { p with stretches := match p.stretches with
          | s :: rest => { s with power } :: rest
          | [] => [] }
  modify fun p => { p with stretches := ⟨start, length, 0⟩ :: p.stretches }

/-- Merges all stretches; `fuel` bounds how many there are. -/
def mergeAll : (fuel : Nat) → Work Progress Unit
  | 0 => return ()
  | fuel + 1 => do
    match (← get).stretches with
    | [] | [_] => return ()
    | t :: s :: rest => do
      let (before, after) ← match rest with
        | r :: rest =>
          if r.length < t.length then do
            let merged ← mergeStretches below r s
            pure ([t, merged], rest)
          else do
            let merged ← mergeStretches below s t
            pure ([merged], r :: rest)
        | [] => do
          let merged ← mergeStretches below s t
          pure ([merged], [])
      modify fun p => { p with stretches := before ++ after }
      mergeAll fuel

/-! ## The whole list -/

/-- How many items from a number on are as far in order as the second of them is: the number of the
first one that is not. -/
def endOfRow (isFalling : Bool) : (fuel : Nat) → (next : Nat) → Work Progress Nat
  | 0, next => return next
  | fuel + 1, next => do
    let items := (← get).items
    match items[next - 1]?, items[next]? with
    | some x, some y =>
      if (← ask (below y x)) == isFalling then endOfRow isFalling fuel (next + 1) else return next
    | _, _ => return next

/-- Finds the items in order from a number on, and turns them around if they are falling; gives the
number of the first one behind them. -/
def findRow (start : Nat) : Work Progress Nat := do
  let items := (← get).items
  match items[start]?, items[start + 1]? with
  | some x, some y => do
    let isFalling ← ask (below y x)
    let stop ← endOfRow below isFalling items.size (start + 2)
    if isFalling then
      modify (putItems start (items.extract start stop).reverse)
    return stop
  | _, _ => return start + 1

/-- Puts the items from a number on into their places among those in order before them. -/
def fillUp (start : Nat) : (count next : Nat) → Work Progress Unit
  | 0, _ => return ()
  | count + 1, next => do
    let items := (← get).items
    match items[next]? with
    | none => return ()
    | some x => do
      let place ← halve (fun y => do return !(← ask (below x y))) items start next
      modify (putItems place (#[x] ++ items.extract place next))
      fillUp start count (next + 1)

/-- How long the stretches have to be at least, for so many items: few enough of them to be put into
their places, and so that the number of stretches is a power of two or a little below one. -/
def leastLength : (fuel : Nat) → (n rest : Nat) → Nat
  | 0, n, rest => n + rest
  | fuel + 1, n, rest =>
    if n < 64 then n + rest else leastLength fuel (n / 2) (max rest (n % 2))

/-- Finds all stretches from a number on; `fuel` bounds how many there are. -/
def findStretches (least : Nat) : (fuel start : Nat) → Work Progress Unit
  | 0, _ => return ()
  | fuel + 1, start => do
    let total := (← get).items.size
    if total ≤ start then return ()
    else
      let stop ← findRow below start
      let filled := max stop (min total (start + least))
      fillUp below start (filled - stop) stop
      addStretch below start (filled - start)
      findStretches least fuel filled

/-- Sorts a list. -/
def sort : Work Progress Unit := do
  let n := (← get).items.size
  if n < 2 then return ()
  else
    findStretches below (leastLength n n 0) n 0
    mergeAll below n

/-- Items sorted by their keys, as far as no comparison fails, and the failure of one. -/
def sortItems (items : List Item) : Run (List Item × Option Failure) := do
  let w ← get
  let isUniform := match items with
    | [] => true
    | x :: xs => xs.all fun y => w.typeOf y.1 == w.typeOf x.1
  let (answer, p) ← (sort (isBelow isUniform)).run.run { items := items.toArray }
  match answer with
  | .ok _ => return (p.items.toList, none)
  | .error e => return (p.items.toList, some e)

end StubClass.Sorting
