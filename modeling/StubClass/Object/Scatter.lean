import StubClass.Object.Iteration

set_option autoImplicit false

/-! # Places of sets

An object stands in a set at a place that its hash decides. The places after the first one are
looked at in short rows, from starts that the rest of the hash leads to. When many places are used
the set gets more of them, and all objects find their places anew. -/

namespace StubClass

/-- The hash that decides over a place. -/
def Entry.word (e : Entry) : UInt64 :=
  wordOf e.hash.toInt

/-- How many places behind the first one are looked at in a row. -/
def rowLength : Nat := 9

namespace Scatter

/-- The number of the last place, all of whose bits are set. -/
def mask (s : Scatter) : Nat :=
  s.spots.size - 1

/-- Looks at places one after another until there is an answer: `start` is where a row starts, `row`
how many places of it are left, `step` the next place, and `rest` what is left of the hash; `fuel`
bounds how many places are looked at. -/
def lookAlong {α : Type} (s : Scatter) (look : Nat → Spot → Run (Option α)) :
    (fuel start row step : Nat) → (rest : UInt64) → Run (Option α)
  | 0, _, _, _, _ => return none
  | fuel + 1, start, row, step, rest => do
    match ← look step ((s.spots[step]?).getD .free) with
    | some answer => return some answer
    | none =>
      match row with
      | row + 1 => lookAlong s look fuel start row (step + 1) rest
      | 0 =>
        let rest := rest >>> 5
        let next := (start * 5 + 1 + rest.toNat) % s.spots.size
        lookAlong s look fuel next (if next + rowLength ≤ s.mask then rowLength else 0) next rest

/-- Looks at the places for a hash one after another until there is an answer. -/
def look {α : Type} (s : Scatter) (hash : UInt64) (f : Nat → Spot → Run (Option α)) :
    Run (Option α) :=
  let start := hash.toNat % s.spots.size
  lookAlong s f (8 * s.spots.size + 64) start
    (if start + rowLength ≤ s.mask then rowLength else 0) start hash

/-- The place of a key with a hash, and what stands there, or the free place for it. -/
def find (s : Scatter) (h : Hash) (key : Obj) : Run (Nat × Option Entry) := do
  let answer ← s.look (wordOf h.toInt) fun i p => do
    match p with
    | .free => return some (i, none)
    | .left => return none
    | .taken e => if ← isEntryOf h key e then return some (i, some e) else return none
  return answer.getD (0, none)

/-- The set with something at a place. -/
def put (s : Scatter) (index : Nat) (p : Spot) : Scatter :=
  { s with spots := s.spots.setIfInBounds index p }

/-- Puts an entry that is not there into a set, to the first free place for it. -/
def settle (s : Scatter) (e : Entry) : Run Scatter := do
  let place ← s.look e.word fun i p =>
    match p with
    | .free => return some i
    | _ => return none
  return { s.put (place.getD 0) (.taken e) with filled := s.filled + 1 }

/-- How many places there have to be for more than a number of objects; `fuel` bounds how often
their number is doubled. -/
def placesAbove (least : Nat) : (fuel places : Nat) → Nat
  | 0, places => places
  | fuel + 1, places =>
    if places ≤ least then placesAbove least fuel (2 * places) else places

/-- The set with places for more than a number of objects. -/
def resized (s : Scatter) (least : Nat) : Run Scatter := do
  let empty : Scatter :=
    { spots := Array.replicate (placesAbove least 64 8) .free, finger := s.finger }
  s.entries.foldlM (fun t e => t.settle e) empty

/-- The set with more places after it has grown. -/
def grown (s : Scatter) : Run Scatter :=
  s.resized (if 50000 < s.size then 2 * s.size else 4 * s.size)

/-- Puts a key with a hash into a set, unless it is there. -/
def add (s : Scatter) (h : Hash) (key : Obj) : Run Scatter := do
  match ← s.find h key with
  | (_, some _) => return s
  | (i, none) =>
    let s := { s.put i (.taken ⟨h, key, .none⟩) with filled := s.filled + 1 }
    if s.filled * 5 < s.mask * 3 then return s else s.grown

/-- Whether a key with a hash is in a set. -/
def holds (s : Scatter) (h : Hash) (key : Obj) : Run Bool := do
  return (← s.find h key).2.isSome

/-- Takes a key with a hash out of a set; says whether it was there. -/
def remove (s : Scatter) (h : Hash) (key : Obj) : Run (Scatter × Bool) := do
  match ← s.find h key with
  | (i, some _) => return (s.put i .left, true)
  | (_, none) => return (s, false)

/-- Adds keys with their hashes. -/
def addAll (s : Scatter) : Table → Run Scatter
  | [] => return s
  | e :: es => do (← s.add e.hash e.key).addAll es

/-- The set with room for so many more objects. -/
def roomFor (s : Scatter) (count : Nat) : Run Scatter :=
  if s.mask * 3 ≤ (s.filled + count) * 5 then s.resized (2 * (s.size + count)) else return s

/-- Adds all objects of another set. -/
def merge (s t : Scatter) : Run Scatter := do
  if t.size == 0 then return s
  else
    let s ← s.roomFor t.size
    if s.filled == 0 && s.mask == t.mask && t.filled == t.size then
      return { t with finger := s.finger }
    else if s.filled == 0 then t.entries.foldlM (fun u e => u.settle e) s
    else s.addAll t.entries

/-- The set with fewer places after many objects were taken out. -/
def cleaned (s : Scatter) : Run Scatter :=
  if s.filled - s.size ≤ s.mask / 4 then return s else s.grown

/-- Takes the next object out of a set, from where the last one was taken. -/
def pop? (s : Scatter) : Option (Entry × Scatter) :=
  let start := s.finger % s.spots.size
  let numbers := (List.range s.spots.size).map fun i => (start + i) % s.spots.size
  numbers.findSome? fun i =>
    match (s.spots[i]?).getD .free with
    | .taken e => some (e, { s.put i .left with finger := i + 1 })
    | _ => none

end Scatter

end StubClass
