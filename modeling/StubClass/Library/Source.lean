import StubClass.Library.Distribution

set_option autoImplicit false

/-! # Sources as objects

A source answers two requests: an integer of a range, and a text of ASCII letters and digits. A
seeded source asks a random number generator, a system source takes its choices from outside, and a
fixed one follows a rule and notes what it is asked. -/

namespace StubClass

/-- The characters of random texts, as an object. -/
def alphabetText : Obj :=
  .word "abcdefghijklmnopqrstuvwxyzABCDEFGHIJKLMNOPQRSTUVWXYZ0123456789"

/-! ## Choices from outside -/

/-- A number below a bound, from outside. -/
def drawOutside (bound : Obj) : Run Obj := do
  if ← compares .le bound (← newInt 0) then throw (.badValue "Upper bound must be positive.")
  else
    let k ← indexOf (← callAttribute bound "bit_length" [])
    match (← get).whole? bound with
    | some n => newInt ((← nextChoice) % n.toNat : Nat)
    | none => do
      let ask : Run Obj := do newInt ((← nextChoice) % Number.twoPow k.toNat : Nat)
      drawUntilBelow ask bound rangeTries

/-- Letters that are chosen from outside, so many of them. -/
def lettersOutside : (k : Nat) → Run (List Char)
  | 0 => return []
  | k + 1 => do
    let n ← nextChoice
    let cs := (((← get).text? alphabetText).getD "").toList
    let c := cs.getD (n % cs.length) 'a'
    return c :: (← lettersOutside k)

/-! ## Functions of sources -/

/-- Notes what a fixed source is asked. -/
def note (self : Obj) (parts : List Obj) : Run Unit := do
  let calls ← take self "calls"
  let _ ← callingAttribute calls "append" (do return [← newList parts])

/-- A function of sources. -/
def sourceFunction (t : BuiltinType) (name : String) (g : Given) : Run Obj := do
  let self := g.self
  let low := g.get "low"
  let high := g.get "high"
  let length := g.get "length"
  match t, name with
  | .seededSource, "__init__" => do
    let seed := g.get "seed"
    if ← not <$> isA seed .int <||> isA seed .bool then
      throw (.badType ("seed must be int, got " ++ (← typeNameIn seed)))
    else
      assign self "seed" (some seed)
      assign self "_rng" (some (← apply (.type .randomGenerator) [seed]))
      return .none
  | .seededSource, "integer" => do callAttribute (← take self "_rng") "randint" [low, high]
  | .seededSource, _ => do
    let join ← take (.word "") "join"
    let f ← take (← take self "_rng") "choices"
    apply join [← call f ⟨[alphabetText], [(.word "k", length)]⟩]
  | .fixedSource, "__init__" => do
    assign self "offset" (some (g.get "offset"))
    assign self "fill" (some (g.get "fill"))
    assign self "calls" (some (← newList []))
    return .none
  | .fixedSource, "integer" => do
    note self [.word "integer", low, high]
    let moved ← binary "add" "+" low (← take self "offset")
    if ← compares .lt high moved then return high else return moved
  | .fixedSource, _ => do
    note self [.word "alphanumeric", length]
    binary "mul" "*" (← take self "fill") length
  | _, "integer" => do
    let width ← plusWhole (← binary "sub" "-" high low) 1
    binary "add" "+" low (← drawOutside width)
  | _, _ => do
    let n ← indexOf length
    newText (String.ofList (← lettersOutside n.toNat))

end StubClass
