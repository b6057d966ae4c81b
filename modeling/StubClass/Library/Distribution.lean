import StubClass.Library.Given
import StubClass.Random.Digest

set_option autoImplicit false

/-! # Random numbers of many sorts

What a random number generator makes of fractions and of numbers of a width: numbers of a range,
choices among parts, parts in another order, and numbers whose chances follow a curve. Everything is
worked out by the operators of the objects that take part, so that a class with other fractions has
other numbers of every sort. -/

namespace StubClass

/-! ## Arithmetic on objects -/

/-- The sum of two objects. -/
def sumOf (x y : Obj) : Run Obj :=
  binary "add" "+" x y

/-- The difference of two objects. -/
def lessBy (x y : Obj) : Run Obj :=
  binary "sub" "-" x y

/-- The product of two objects. -/
def productOf (x y : Obj) : Run Obj :=
  binary "mul" "*" x y

/-- The quotient of two objects. -/
def quotientOf (x y : Obj) : Run Obj :=
  binary "truediv" "/" x y

/-- Whether an object is between two others. -/
def isBetween (c : Comparison) (low x high : Obj) : Run Bool := do
  if ← compares c low x then compares c x high else return false

/-- A power of an object. -/
def powerOf (x y : Obj) : Run Obj :=
  binary "pow" "** or pow()" x y

/-- A function of floating point numbers on an object: there has to be an answer, and it may not be
too large. -/
def valueAt (f : Float → Float) (mayOverflow : Bool) (x : Obj) : Run Obj := do
  let a ← floatOf x
  let b := f a
  if b.isNaN && !a.isNaN then throw (.badValue "math domain error")
  else if b.isInf && !a.isInf && !a.isNaN then
    if mayOverflow then throw (.ordinary .overflow "math range error")
    else throw (.badValue "math domain error")
  else newFloat b

/-- The natural logarithm. -/
def logarithm (x : Obj) : Run Obj :=
  valueAt Float.log false x

/-- The natural logarithm with the other sign. -/
def negativeLogarithm (x : Obj) : Run Obj := do
  newFloat (-(← floatOf (← logarithm x)))

/-- The exponential. -/
def exponential (x : Obj) : Run Obj :=
  valueAt Float.exp true x

/-- The square root. -/
def squareRoot (x : Obj) : Run Obj :=
  valueAt Float.sqrt false x

/-- The greatest whole number that is not above an object. -/
def floorOf (x : Obj) : Run Obj := do
  let byNumber : Run Obj := do roundedBy "__floor__" (← floatOf x)
  if (← get).isExactly x .float then byNumber
  else
    match ← callSpecial? x "__floor__" [] with
    | some n => return n
    | none => byNumber

/-- The sum of an object and a whole number. -/
def plusWhole (x : Obj) (n : Int) : Run Obj := do
  binary "add" "+" x (← newInt n)

/-! ## The generator -/

/-- Asks for numbers until one is below a bound, `tries` times at most. -/
def drawUntilBelow (ask : Run Obj) (bound : Obj) : (tries : Nat) → Run Obj
  | 0 => throw (.badValue "no number of the range was drawn")
  | tries + 1 => do
    let r ← ask
    if ← compares .ge r bound then drawUntilBelow ask bound tries else return r

/-- How often a number is drawn until it is in a range. -/
def rangeTries : Nat := 10000

/-- An end of a range, which is a whole number, or equal to one; `which` names it. -/
def rangeEnd (which : String) (x : Obj) : Run Int := do
  match ← catching (fun e => e.isA .badType) (indexOf x) with
  | some n => return n
  | none => do
    let n ← wholeFrom x
    if ← compares .ne (← newInt n) x then
      throw (.badValue ("non-integer " ++ which ++ " for randrange()"))
    else return n

/-- A whole number as it is written. -/
def numeral (n : Int) : String :=
  (Value.int n).literal

/-- A number of a range with a step, by a generator. -/
def drawFromRange (self start stop step : Obj) : Run Obj := do
  let first ← rangeEnd "arg 1" start
  let below (n : Int) : Run Obj := do
    callingAttribute self "_randbelow" (do return [← newInt n])
  if stop == .none then
    if (← get).whole? step != some 1 then throw (.badType "Missing a non-None stop argument")
    else if first > 0 then below first
    else throw (.badValue "empty range for randrange()")
  else
    let last ← rangeEnd "stop" stop
    let width := last - first
    let s ← rangeEnd "step" step
    if s == 1 then
      if 0 < width then do binary "add" "+" (← newInt first) (← below width)
      else throw (.badValue ("empty range for randrange() ("
        ++ commaJoined ([first, last, width].map numeral) ++ ")"))
    else if s == 0 then throw (.badValue "zero step for randrange()")
    else
      let n := if 0 < s then (width + s - 1) / s else (-width - s - 1) / (-s)
      if n ≤ 0 then throw (.badValue "empty range for randrange()")
      else
        let r ← below n
        binary "add" "+" (← newInt first) (← binary "mul" "*" (← newInt s) r)

/-! ## Choices -/

/-- Sums of the first objects, one after another. -/
def sumsOf : List Obj → Run (List Obj)
  | [] => return []
  | x :: xs => from_ x xs
where
  /-- A sum with those that follow it. -/
  from_ (sum : Obj) : List Obj → Run (List Obj)
    | [] => return [sum]
    | x :: xs => do return sum :: (← from_ (← sumOf sum x) xs)

/-- The place behind all parts between two places of a sequence that are not above an object; `fuel`
bounds how often the stretch is halved. -/
def placeBehind (xs x : Obj) : (fuel : Nat) → (low high : Int) → Run Int
  | 0, low, _ => return low
  | fuel + 1, low, high =>
    if low < high then do
      let middle := (low + high) / 2
      let y ← partUnder xs (← newInt middle)
      if ← compares .lt x y then placeBehind xs x fuel low middle
      else placeBehind xs x fuel (middle + 1) high
    else return low

/-- How often a stretch can be halved. -/
def halvings : Nat := 64

/-- The parts of a sequence that stand where so many drawn places say. -/
def chooseBy (draw : Run Obj) (population : Obj) : (k : Nat) → Run (List Obj)
  | 0 => return []
  | k + 1 => do
    let x ← partUnder population (← draw)
    return x :: (← chooseBy draw population k)

/-- Parts of a sequence, each chosen among all by weights or by their sums. -/
def drawChoices (g : Given) : Run Obj := do
  let population := g.get "population"
  let random ← take g.self "random"
  let n ← lengthOf population
  let chosen (draw : Run Obj) : Run Obj := do
    let k ← sizeArgument (g.get "k")
    newList (← chooseBy draw population k.toNat)
  match g.get "cum_weights", g.get "weights" with
  | .none, .none => do
    let count ← newFloat (Float.ofNat n)
    chosen (do floorOf (← productOf (← apply random []) count))
  | .none, weights => do
    let sums ← tryCatch (do newList (← sumsOf (← elementsOf weights))) fun e => do
      if e.isBadType then
        if ← isA weights .int then
          throw (.badType ("The number of choices must be a keyword argument: k="
            ++ (← literalOf weights)))
      throw e
    weighted random chosen n sums
  | sums, .none => weighted random chosen n sums
  | _, _ => throw (.badType "Cannot specify both weights and cumulative weights")
where
  /-- Parts of a sequence of so many, chosen by the sums of their weights. -/
  weighted (random : Obj) (chosen : Run Obj → Run Obj) (n : Nat) (sums : Obj) : Run Obj := do
    if (← lengthOf sums) != n then
      throw (.badValue "The number of weights does not match the population")
    let zero ← newFloat 0.0
    let total ← sumOf (← partUnder sums (← newInt (-1))) zero
    if ← compares .le total zero then
      throw (.badValue "Total of weights must be greater than zero")
    let y ← floatOf total
    if y.isInf || y.isNaN then throw (.badValue "Total of weights must be finite")
    chosen (do
      let x ← productOf (← apply random []) total
      newInt (← placeBehind sums x halvings 0 (n - 1 : Int)))

/-! ## Samples -/

/-- So many parts of a pool, each taken out of what is left of it. -/
def drawFromPool (below : Nat → Run Obj) (pool : Obj) (n : Nat) : (k : Nat) → Run (List Obj)
  | 0 => return []
  | k + 1 => do
    let left := n - 1
    let j ← below n
    let x ← partUnder pool j
    storeUnder pool j (← partUnder pool (← newInt left))
    return x :: (← drawFromPool below pool left k)

/-- A place that was not drawn yet; `tries` bounds how often one is drawn. -/
def drawUnknown (below : Run Obj) (known : List Obj) : (tries : Nat) → Run Obj
  | 0 => throw (.badValue "no number of the range was drawn")
  | tries + 1 => do
    let j ← below
    if ← isAmong j known then drawUnknown below known tries else return j

/-- So many different parts of a sequence. -/
def drawDifferent (below : Run Obj) (population : Obj) (known : List Obj) : (k : Nat) →
    Run (List Obj)
  | 0 => return []
  | k + 1 => do
    let j ← drawUnknown below known rangeTries
    let x ← partUnder population j
    return x :: (← drawDifferent below population (j :: known) k)

/-- How many parts a set of so many takes the room of. -/
def roomOfSet (k : Nat) : Nat :=
  let digits := (Float.log (Float.ofNat (3 * k)) / Float.log 4.0).ceil.toUInt64.toNat
  21 + (if 5 < k then Number.twoPow (2 * digits) else 0)

/-- So many different parts of a sequence of `n`, as a list. -/
def sampleOf (self population : Obj) (n : Nat) (k : Obj) : Run Obj := do
  let randbelow ← take self "_randbelow"
  let below (n : Nat) : Run Obj := do apply randbelow [← newInt n]
  let isInside ← isBetween .le (← newInt 0) k (← newInt n)
  if !isInside then
    throw (.badValue "Sample larger than population or is negative")
  let w ← get
  if (w.whole? k).isNone && (w.special? k "__index__").isNone then
    throw (.badType ("can't multiply sequence by non-int of type '" ++ w.clippedTitle k ++ "'"))
  let count := (← sizeArgument k).toNat
  if n ≤ roomOfSet count then
    let pool ← newList (← elementsOf population)
    newList (← drawFromPool below pool n count)
  else newList (← drawDifferent (below n) population [] count)

/-- So many different parts of a sequence, in which each may stand several times. -/
def drawSample (g : Given) : Run Obj := do
  let self := g.self
  let population := g.get "population"
  if !(← [BuiltinType.list, .tuple, .str, .bytes].anyM fun t => isA population t) then
    throw (.badType "Population must be a sequence.  For dicts or sets, use sorted(d).")
  let n ← lengthOf population
  match g.get "counts" with
  | .none => sampleOf self population n (g.get "k")
  | counts => do
    let sums ← sumsOf (← elementsOf counts)
    if sums.length != n then
      throw (.badValue "The number of counts does not match the population")
    match sums.getLast? with
    | none => throw (.ordinary .badIndex "pop from empty list")
    | some total =>
      if !(← isA total .int) then throw (.badType "Counts must be integers")
      if ← compares .le total (← newInt 0) then
        throw (.badValue "Total of counts must be greater than zero")
      let m := (← indexOf total).toNat
      let places ← newList (← (List.range m).mapM fun (i : Nat) => newInt i)
      let chosen ← elementsOf (← sampleOf self places m (g.get "k"))
      let bounds ← newList sums.dropLast
      newList (← chosen.mapM fun s => do
        partUnder population (← newInt (← placeBehind bounds s halvings 0 (n - 1 : Int))))

/-- The parts of a list in another order: from the last place on, each is exchanged with one that
is chosen before it or itself. -/
def shuffleParts (below x : Obj) : (i : Nat) → Run Unit
  | 0 => return ()
  | i + 1 => do
    let j ← apply below [← newInt (i + 2 : Nat)]
    let here ← newInt (i + 1 : Nat)
    let z ← partUnder x j
    let y ← partUnder x here
    storeUnder x here z
    storeUnder x j y
    shuffleParts below x i

/-! ## Curves -/

/-- The ratio of a circle to its width. -/
def circleRatio : Float := 3.141592653589793

/-- A fraction by a generator. -/
def fractionBy (self : Obj) : Run Obj :=
  callAttribute self "random" []

/-- What is left of one by a fraction. -/
def restOf (x : Obj) : Run Obj := do
  lessBy (← newFloat 1.0) x

/-- A number between two, most likely near a third one. -/
def drawTriangular (g : Given) : Run Obj := do
  let low := g.get "low"
  let high := g.get "high"
  let mode := g.get "mode"
  let u ← fractionBy g.self
  let peak : Run Obj := do
    if mode == .none then newFloat 0.5
    else quotientOf (← lessBy mode low) (← lessBy high low)
  match ← catching (fun e => e.isA .zeroDivision) peak with
  | none => return low
  | some c =>
    let isBeyond ← compares .gt u c
    let (u, c, low, high) ← if isBeyond then do pure (← restOf u, ← restOf c, high, low)
      else pure (u, c, low, high)
    sumOf low (← productOf (← lessBy high low) (← squareRoot (← productOf u c)))

/-- A number in the middle of a bell around zero, from two fractions; `tries` bounds how often they
are drawn. -/
def bellValue (random : Obj) : (tries : Nat) → Run Obj
  | 0 => throw (.badValue "no number of the range was drawn")
  | tries + 1 => do
    let u ← apply random []
    let v ← restOf (← apply random [])
    let width ← newFloat (4.0 * Float.exp (-0.5) / Float.sqrt 2.0)
    let z ← quotientOf (← productOf width (← lessBy u (← newFloat 0.5))) v
    let square ← quotientOf (← productOf z z) (← newFloat 4.0)
    if ← compares .le square (← negativeLogarithm v) then return z else bellValue random tries

/-- A number of a bell by its middle and its width. -/
def inBell (middle width z : Obj) : Run Obj := do
  sumOf middle (← productOf z width)

/-- A number of a bell. -/
def drawNormal (g : Given) : Run Obj := do
  let random ← take g.self "random"
  inBell (g.get "mu") (g.get "sigma") (← bellValue random rangeTries)

/-- A number of a bell, of which two are made at a time and one is kept. -/
def drawGauss (g : Given) : Run Obj := do
  let self := g.self
  let random ← take self "random"
  let kept ← take self "gauss_next"
  assign self "gauss_next" (some .none)
  let z ← if kept != .none then pure kept
    else do
      let angle ← productOf (← apply random []) (← newFloat (2.0 * circleRatio))
      let fall ← logarithm (← restOf (← apply random []))
      let radius ← squareRoot (← productOf (← newFloat (-2.0)) fall)
      let z ← productOf (← valueAt Float.cos false angle) radius
      assign self "gauss_next" (some (← productOf (← valueAt Float.sin false angle) radius))
      pure z
  inBell (g.get "mu") (g.get "sigma") z

/-- An angle that is likely to be near another one; `tries` bounds how often it is drawn. -/
def angleValue (random r : Obj) : (tries : Nat) → Run Obj
  | 0 => throw (.badValue "no number of the range was drawn")
  | tries + 1 => do
    let turn ← productOf (← newFloat circleRatio) (← apply random [])
    let z ← valueAt Float.cos false turn
    let d ← quotientOf z (← sumOf r z)
    let u ← apply random []
    if ← compares .lt u (← restOf (← productOf d d)) then return z
    else if ← compares .le u (← productOf (← restOf d) (← exponential d)) then return z
    else angleValue random r tries

/-- An angle around a middle. -/
def drawAngle (g : Given) : Run Obj := do
  let middle := g.get "mu"
  let focus := g.get "kappa"
  let random ← take g.self "random"
  let full ← newFloat (2.0 * circleRatio)
  if ← compares .le focus (← newFloat 1e-6) then productOf full (← apply random [])
  else
    let s ← quotientOf (← newFloat 0.5) focus
    let r ← sumOf s (← squareRoot (← sumOf (← newFloat 1.0) (← productOf s s)))
    let z ← angleValue random r rangeTries
    let q ← quotientOf (← newFloat 1.0) r
    let f ← quotientOf (← sumOf q z) (← sumOf (← newFloat 1.0) (← productOf q z))
    let isAbove ← compares .gt (← apply random []) (← newFloat 0.5)
    let turn ← valueAt Float.acos false f
    binary "mod" "%" (← if isAbove then sumOf middle turn else lessBy middle turn) full

/-- A number of a wide curve, by its numbers; `tries` bounds how often it is drawn. -/
def wideValue (random alpha beta root offset slope : Obj) : (tries : Nat) → Run Obj
  | 0 => throw (.badValue "no number of the range was drawn")
  | tries + 1 => do
    let u ← apply random []
    let isInside ← isBetween .lt (← newFloat 1e-7) u (← newFloat 0.9999999)
    if !isInside then
      wideValue random alpha beta root offset slope tries
    else
      let v ← restOf (← apply random [])
      let odds ← quotientOf (← logarithm (← quotientOf u (← restOf u))) root
      let x ← productOf alpha (← exponential odds)
      let z ← productOf (← productOf u u) v
      let r ← lessBy (← sumOf offset (← productOf slope odds)) x
      let margin ← lessBy (← sumOf r (← newFloat (1.0 + Float.log 4.5)))
        (← productOf (← newFloat 4.5) z)
      if ← compares .ge margin (← newFloat 0.0) then productOf x beta
      else if ← compares .ge r (← logarithm z) then productOf x beta
      else wideValue random alpha beta root offset slope tries

/-- A number of a steep curve; `tries` bounds how often it is drawn. -/
def steepValue (random alpha : Obj) : (tries : Nat) → Run Obj
  | 0 => throw (.badValue "no number of the range was drawn")
  | tries + 1 => do
    let u ← apply random []
    let one ← newFloat 1.0
    let base ← newFloat 2.718281828459045
    let b ← quotientOf (← sumOf base alpha) base
    let p ← productOf b u
    let isLow ← compares .le p one
    let x ← if isLow then powerOf p (← quotientOf one alpha)
      else negativeLogarithm (← quotientOf (← lessBy b p) alpha)
    let v ← apply random []
    let isFit ← if ← compares .gt p one then
        compares .le v (← powerOf x (← lessBy alpha one))
      else do
        compares .le v (← exponential (← negated x))
    if isFit then return x else steepValue random alpha tries
where
  /-- A number with the other sign. -/
  negated (x : Obj) : Run Obj := do
    return (← callSpecial? x "__neg__" []).getD .none

/-- A number of a curve that starts at zero, by its form and its width. -/
def gammaBy (self alpha beta : Obj) : Run Obj := do
  let zero ← newFloat 0.0
  let one ← newFloat 1.0
  let isOutside ← if ← compares .le alpha zero then pure true else compares .le beta zero
  if isOutside then
    throw (.badValue "gammavariate: alpha and beta must be > 0.0")
  let random ← take self "random"
  if ← compares .gt alpha one then
    let root ← squareRoot (← lessBy (← productOf (← newFloat 2.0) alpha) one)
    let offset ← lessBy alpha (← newFloat (Float.log 4.0))
    wideValue random alpha beta root offset (← sumOf alpha root) rangeTries
  else if ← isEqual alpha one then
    productOf (← negativeLogarithm (← restOf (← apply random []))) beta
  else productOf (← steepValue random alpha rangeTries) beta

/-- A part of the sum of two numbers of curves that start at zero. -/
def drawBeta (g : Given) : Run Obj := do
  let variate (x : Obj) : Run Obj := do
    callingAttribute g.self "gammavariate" (do return [x, ← newFloat 1.0])
  let y ← variate (g.get "alpha")
  if ← truthOf y then quotientOf y (← sumOf y (← variate (g.get "beta")))
  else newFloat 0.0

/-- A number of a curve, by the name of its function. -/
def curveFunction (name : String) (g : Given) : Run Obj := do
  let self := g.self
  let rest : Run Obj := do restOf (← fractionBy self)
  match name with
  | "uniform" => do
    let a := g.get "a"
    let width ← lessBy (g.get "b") a
    sumOf a (← productOf width (← fractionBy self))
  | "triangular" => drawTriangular g
  | "normalvariate" => drawNormal g
  | "gauss" => drawGauss g
  | "lognormvariate" =>
    do exponential (← callAttribute self "normalvariate" [g.get "mu", g.get "sigma"])
  | "expovariate" => do quotientOf (← negativeLogarithm (← rest)) (g.get "lambd")
  | "vonmisesvariate" => drawAngle g
  | "gammavariate" => gammaBy self (g.get "alpha") (g.get "beta")
  | "betavariate" => drawBeta g
  | "paretovariate" => do
    let u ← rest
    powerOf u (← quotientOf (← newFloat (-1.0)) (g.get "alpha"))
  | "weibullvariate" => do
    let fall ← negativeLogarithm (← rest)
    productOf (g.get "alpha") (← powerOf fall (← quotientOf (← newFloat 1.0) (g.get "beta")))
  | _ => notProvided ("Random." ++ name)

/-! ## Seeds and states -/

/-- The number that a text or bytes are as a seed, all of them counting. -/
def seedOfBytes (bs : List UInt8) : Int :=
  natOfBytes (bs ++ Random.Digest.of bs).reverse

/-- The number that characters are as a seed of the older sort. -/
def olderSeed (codes : List Nat) : Int :=
  let start := (codes.head?.getD 0) * 128
  let mixed := codes.foldl (fun x c => ((1000003 * x) ^^^ c) % Number.twoPow 64) start
  (mixed ^^^ codes.length : Nat)

/-- Seeds a generator. -/
def seedGenerator (self a version : Obj) : Run Obj := do
  let isText ← [BuiltinType.str, .bytes].anyM fun t => isA a t
  let isVersion (n : Int) : Run Bool := do isEqual version (← newInt n)
  let w ← get
  let seed ← if isText && (← isVersion 1) then
      match w.body a with
      | .str text => newInt (olderSeed (text.toList.map Char.toNat))
      | .bytes bs => newInt (olderSeed (bs.map UInt8.toNat))
      | _ => pure a
    else if isText && (← isVersion 2) then
      match w.body a with
      | .str text => newInt (seedOfBytes text.toUTF8.toList)
      | .bytes bs => newInt (seedOfBytes bs)
      | _ => pure a
    else if isText || (← [BuiltinType.none, .int, .float].anyM fun t => isA a t) then pure a
    else
      throw (.badType
        "The only supported seed types are: None,\nint, float, str, bytes, and bytearray.")
  let _ ← callHeld .randomCore "seed" (.ofList [self, seed])
  assign self "gauss_next" (some .none)
  return .none

/-- The three parts of an object. -/
def threeParts (x : Obj) : Run (Obj × Obj × Obj) := do
  let w ← get
  match ← elements? x with
  | none => throw (.badType ("cannot unpack non-iterable " ++ w.clippedTitle x ++ " object"))
  | some [a, b, c] => return (a, b, c)
  | some xs =>
    if xs.length < 3 then
      throw (.badValue
        ("not enough values to unpack (expected 3, got " ++ counted xs.length ++ ")"))
    else throw (.badValue "too many values to unpack (expected 3)")

/-- Gives a generator a state that it had. -/
def restoreState (self state : Obj) : Run Obj := do
  let version ← partUnder state (← newInt 0)
  let put (change : Obj → Run Obj) : Run Obj := do
    let (_, inner, next) ← threeParts state
    assign self "gauss_next" (some next)
    let inner ← change inner
    callHeld .randomCore "setstate" (.ofList [self, inner])
  if ← isEqual version (← newInt 3) then put pure
  else if ← isEqual version (← newInt 2) then
    put fun inner => do
      let xs ← elementsOf inner
      let modulus ← newInt (Number.twoPow 32 : Nat)
      newTuple (← xs.mapM fun x => binary "mod" "%" x modulus)
  else
    throw (.badValue ("state with version " ++ (← plainText version)
      ++ " passed to Random.setstate() of version " ++ (← plainText (← take self "VERSION"))))

/-- Says how a class of generators that is derived draws below a bound: by numbers of a width if the
nearest of its classes has those, or else by fractions. -/
def settleDraws (c : Obj) : Run Obj := do
  let w ← get
  let how := (w.orderOf c).findSome? fun k =>
    let holds (n : String) : Bool := (w.ownHeld? k n).isSome
    if holds "_randbelow" then some none
    else if holds "getrandbits" then some (some "_randbelow_with_getrandbits")
    else if holds "random" then some (some "_randbelow_without_getrandbits")
    else none
  match how.join with
  | some name => assign c "_randbelow" (some (← take c name))
  | none => pure ()
  return .none

/-- A number below a bound by fractions, which are drawn again from a limit on. -/
def drawByFractions (self n most : Obj) : Run Obj := do
  let random ← take self "random"
  if ← compares .ge n most then floorOf (← productOf (← apply random []) n)
  else
    let rest ← binary "mod" "%" most n
    let limit ← quotientOf (← lessBy most rest) most
    let r ← drawUntilBelow (apply random []) limit rangeTries
    binary "mod" "%" (← floorOf (← productOf r most)) n

/-- A function of random number generators. -/
def randomFunction (name : String) (g : Given) : Run Obj := do
  let self := g.self
  match name with
  | "__init__" => do
    let _ ← callAttribute self "seed" [g.get "x"]
    assign self "gauss_next" (some .none)
    return .none
  | "__init_subclass__" => settleDraws (g.get "cls")
  | "seed" => seedGenerator self (g.get "a") (g.get "version")
  | "getstate" => do
    let version ← take self "VERSION"
    let inner ← callHeld .randomCore "getstate" (.ofList [self])
    newTuple [version, inner, ← take self "gauss_next"]
  | "__getstate__" => callAttribute self "getstate" []
  | "setstate" => restoreState self (g.get "state")
  | "__setstate__" => do
    let _ ← callAttribute self "setstate" [g.get "state"]
    return .none
  | "__reduce__" => do
    let c ← take self "__class__"
    newTuple [c, ← newTuple [], ← callAttribute self "getstate" []]
  | "randint" => do
    let f ← take self "randrange"
    apply f [g.get "a", ← plusWhole (g.get "b") 1]
  | "randrange" => drawFromRange self (g.get "start") (g.get "stop") (g.get "step")
  | "_randbelow" | "_randbelow_with_getrandbits" => do
    let n := g.get "n"
    let bits ← take self "getrandbits"
    let k ← callAttribute n "bit_length" []
    drawUntilBelow (apply bits [k]) n rangeTries
  | "_randbelow_without_getrandbits" => drawByFractions self (g.get "n") (g.get "maxsize")
  | "choice" => do
    let xs := g.get "seq"
    let n ← lengthOf xs
    if n == 0 then throw (.ordinary .badIndex "Cannot choose from an empty sequence")
    else
      let below ← take self "_randbelow"
      partUnder xs (← apply below [← newInt (← lengthOf xs)])
  | "choices" => drawChoices g
  | "sample" => drawSample g
  | "shuffle" => do
    let x := g.get "x"
    let below ← take self "_randbelow"
    shuffleParts below x ((← lengthOf x) - 1)
    return .none
  | "randbytes" => do
    let n := g.get "n"
    let bits ← callingAttribute self "getrandbits" (do return [← productOf n (← newInt 8)])
    callingAttribute bits "to_bytes" (do return [n, .word "little"])
  | name => curveFunction name g

end StubClass
