set_option autoImplicit false

/-! # What is reached from a class

The descendants of a class and the code behind what it holds, found by asking: the questions may
have effects of their own. Descendants are listed level by level, each once. Behind a member stand
the objects that its layers hold, layer by layer, each followed along what it wraps until an object
comes again; the code of these, with all that is nested in it, is the code of the class. Whether one
of some classes has the code of a caller decides whether the caller may call a member. -/

namespace StubClass

variable {m : Type → Type} [Monad m] {α κ : Type}

/-! ## Descendants -/

/-- Adds objects to a list that are not in it yet. -/
def addUnknown (isAmong : α → List α → m Bool) (found : List α) : List α → m (List α)
  | [] => return found
  | x :: xs => do
    if ← isAmong x found then addUnknown isAmong found xs
    else addUnknown isAmong (found ++ [x]) xs

/-- Goes through a list from a place on and adds what is directly below each object at its end;
`fuel` bounds the number of objects. -/
def descendantsFrom (below : α → m (List α)) (isAmong : α → List α → m Bool) :
    (fuel : Nat) → (found : List α) → (place : Nat) → m (List α)
  | 0, found, _ => return found
  | fuel + 1, found, place => do
    match found[place]? with
    | none => return found
    | some x =>
      let next ← addUnknown isAmong found (← below x)
      descendantsFrom below isAmong fuel next (place + 1)

/-- An owner with all its descendants, level by level. -/
def descendants (below : α → m (List α)) (isAmong : α → List α → m Bool) (fuel : Nat)
    (owner : α) : m (List α) :=
  descendantsFrom below isAmong fuel [owner] 0

/-! ## Code -/

/-- A layer around objects. -/
inductive Layer (α : Type) where
  /-- A function with what it is to be bound to. -/
  | binder (function : α)
  /-- A function that is prepared for later. -/
  | prepared (function : α)
  /-- A property with those accessors that it has. -/
  | property (getter setter deleter : Option α)
deriving Repr, DecidableEq

/-- The objects that a layer holds, in the order in which they are looked at. -/
def Layer.held : Layer α → List α
  | binder f | prepared f => [f]
  | property getter setter deleter => getter.toList ++ setter.toList ++ deleter.toList

/-- What is found for each of some objects, one after another. -/
def collect {β : Type} (find : β → m (List κ)) : List β → m (List κ)
  | [] => return []
  | x :: xs => do
    let here ← find x
    return here ++ (← collect find xs)

/-- How members and code are looked into. -/
structure Inspection (m : Type → Type) (α κ : Type) where
  /-- The layer that an object is. -/
  layer? : α → m (Option (Layer α))
  /-- What an object wraps. -/
  wrapped? : α → m (Option α)
  /-- Whether two objects are one. -/
  isOne : α → α → m Bool
  /-- The code of an object. -/
  code? : α → m (Option κ)
  /-- The code that is directly nested in a piece of code. -/
  nested : κ → m (List κ)
  /-- What becomes of a search that goes too deep. -/
  tooDeep : m (List κ)

namespace Inspection

variable (i : Inspection m α κ)

/-- Whether an object is one of a list. -/
def isSeen (x : α) : List α → m Bool
  | [] => return false
  | y :: ys => do
    if ← i.isOne x y then return true else isSeen x ys

/-- A piece of code with all that is nested in it, no deeper than `depth`. -/
def allNested : (depth : Nat) → κ → m (List κ)
  | 0, _ => i.tooDeep
  | depth + 1, c => do
    return c :: (← collect (allNested depth) (← i.nested c))

/-- The code of an object with all that is nested in it. -/
def codeOf (depth : Nat) (x : α) : m (List κ) := do
  match ← i.code? x with
  | some c => i.allNested depth c
  | none => return []

/-- The code of an object and of what it wraps, along the chain until an object comes again. -/
def chainCode (depth : Nat) : (fuel : Nat) → (seen : List α) → α → m (List κ)
  | 0, _, _ => i.tooDeep
  | fuel + 1, seen, x => do
    let here ← i.codeOf depth x
    match ← i.wrapped? x with
    | none => return here
    | some y => do
      if ← i.isSeen y (x :: seen) then return here
      else return here ++ (← chainCode depth fuel (x :: seen) y)

/-- The code behind a member: layers are opened, no more than `depth` around each other, and what is
then found is followed along what it wraps. `fuel` bounds the number of objects along a chain. -/
def codeBehind (fuel : Nat) : (depth : Nat) → α → m (List κ)
  | 0, _ => i.tooDeep
  | depth + 1, x => do
    match ← i.layer? x with
    | some layer => collect (codeBehind fuel depth) layer.held
    | none => i.chainCode fuel fuel [] x

end Inspection

/-- Whether one of some classes has a piece of code that a test is true of. -/
def anyHasCode (codeOf : α → m (List κ)) (isCaller : κ → m Bool) : List α → m Bool
  | [] => return false
  | c :: cs => do
    if ← anyTrue (← codeOf c) then return true else anyHasCode codeOf isCaller cs
where
  /-- Whether a test is true of one of some pieces of code. -/
  anyTrue : List κ → m Bool
    | [] => return false
    | k :: ks => do
      if ← isCaller k then return true else anyTrue ks

/-! ## Access -/

/-- What the check of a call asks and does: `φ` are callers. -/
structure Gate (m : Type → Type) (α κ φ : Type) extends Inspection m α κ where
  isPublic : m Bool
  isProtected : m Bool
  /-- The classes that are directly derived from a class. -/
  below : α → m (List α)
  isAmong : α → List α → m Bool
  /-- What a class holds. -/
  members : α → m (List α)
  /-- Whether a piece of code is that of a caller. -/
  isCaller : φ → κ → m Bool
  refuse : m Unit
  /-- More than there are objects. -/
  room : m Nat
  /-- How many layers there can be around each other. -/
  depth : m Nat

namespace Gate

variable {φ : Type} (g : Gate m α κ φ)

/-- The code behind what a class holds. -/
def codeOfClass (c : α) : m (List κ) := do
  let members ← g.members c
  collect (g.codeBehind (← g.room) (← g.depth)) members

/-- The classes whose code may call: the owner, and for a protected member its descendants too. -/
def classes (owner : α) : m (List α) := do
  if ← g.isProtected then descendants g.below g.isAmong (← g.room) owner else return [owner]

/-- Refuses a call unless the member is public, or the caller runs code of one of the classes. -/
def check (owner : α) : Option φ → m Unit
  | none => do
    if ← g.isPublic then return () else g.refuse
  | some caller => do
    if ← g.isPublic then return ()
    else if ← anyHasCode g.codeOfClass (g.isCaller caller) (← g.classes owner) then return ()
    else g.refuse

end Gate

end StubClass
