import StubClass.Ordinary.Module

set_option autoImplicit false

/-! # The generator behind random numbers

The generator of words as an object: it is seeded, and gives fractions and numbers of a width. -/

namespace StubClass

/-- Gives an object another state of the generator. -/
def putTwister (x : Obj) (t : Random.Twister) : Run Unit :=
  putBody x (.twister t)

/-- What an object draws from its generator. -/
def drawTwister {α : Type} (x : Obj) (draw : Random.Twister → α × Random.Twister) (otherwise : α) :
    Run α := do
  match (← get).body x with
  | .twister t => do
    let (answer, t) := draw t
    putTwister x t
    return answer
  | _ => return otherwise

/-- The next choice made outside, of all that there are. -/
def nextChoice : Run Nat :=
  modifyGet fun w => (w.choices w.used, { w with used := w.used + 1 })

/-- A fraction with 53 binary digits, as a floating point number. -/
def fractionOf (n : Nat) : Float :=
  Number.nearest n (Number.twoPow 53)

/-- Seeds a generator: with a whole number, with the hash of anything else, or from outside. -/
def seedTwister (x : Obj) (seed : Option Obj) : Run Unit := do
  match seed.filter (· != .none) with
  | none => do putTwister x (Random.Twister.ofSeed (← nextChoice))
  | some y => do
    match (← get).whole? y with
    | some n => putTwister x (Random.Twister.ofSeed n)
    | none => do
      let hash := (← hashOf y).toInt
      putTwister x (Random.Twister.ofSeed (if hash < 0 then hash + Number.twoPow 64 else hash))

/-- The words of a generator and how many of them have been given out, as an object. -/
def stateOfTwister (x : Obj) : Run Obj := do
  match (← get).body x with
  | .twister t => do
    let words ← t.words.toList.mapM fun w => newInt w.toNat
    newTuple (words ++ [← newInt t.position])
  | _ => newTuple []

/-- A word of a state. -/
def wordArgument (x : Obj) : Run UInt32 := do
  let w ← get
  match w.whole? x with
  | none => throw (.badType "an integer is required")
  | some n =>
    if n < 0 then
      throw (.ordinary .overflow "can't convert negative value to unsigned int")
    else if (Number.twoPow 64 : Nat) ≤ n then
      throw (.ordinary .overflow "Python int too large to convert to C unsigned long")
    else return UInt32.ofNat n.toNat

/-- Gives a generator a state that is kept in an object. -/
def restoreTwister (x state : Obj) : Run Unit := do
  let w ← get
  match w.body state with
  | .tuple xs =>
    if xs.length != Random.Twister.size + 1 then
      throw (.badValue "state vector is the wrong size")
    else
      let words ← xs.dropLast.mapM wordArgument
      let place ← match w.whole? (xs.getLastD .none) with
        | some n => pure n
        | none => noInteger (xs.getLastD .none)
      if place < 0 || (Random.Twister.size : Nat) < place then throw (.badValue "invalid state")
      else putTwister x ⟨words.toArray, place.toNat⟩
  | _ => throw (.badType "state vector must be a tuple")

/-- A method of the generator. -/
def twisterMethod (name function : String) (x : Obj) (a : Operands) : Run Obj := do
  match name with
  | "random" => do
    takeNone function a
    newFloat (fractionOf (← drawTwister x Random.Twister.fraction53 0))
  | "getrandbits" => do
    let n ← smallArgument (← takeOne function a)
    if n < 0 then throw (.badValue "number of bits must be non-negative")
    else if n == 0 then newInt 0
    else newInt (← drawTwister x (Random.Twister.bits n.toNat) 0)
  | "seed" => do
    let given ← takeBetween function "seed" 0 1 a
    seedTwister x given.head?
    return .none
  | "getstate" => do
    takeNone function a
    stateOfTwister x
  | "setstate" => do
    restoreTwister x (← takeOne function a)
    return .none
  | _ => notProvided function

end StubClass
