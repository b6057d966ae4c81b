import StubClass.Formal
import StubClass.Random.Twister
import StubClass.Value.Number

set_option autoImplicit false

/-! # Sources of random values

A source answers two requests: an integer of a range, and a text of ASCII letters and digits. A
seeded source answers the same to the same requests; a fixed one answers by rule, for rehearsals; a
system source takes its choices from outside. Every source keeps the requests it was given. -/

namespace StubClass.Random

/-- The characters of random texts. -/
def alphabet : List Char :=
  "abcdefghijklmnopqrstuvwxyzABCDEFGHIJKLMNOPQRSTUVWXYZ0123456789".toList

/-- The character of the alphabet with a number. -/
def letter (n : Nat) : Char :=
  alphabet.getD (n % alphabet.length) 'a'

/-- What a source is asked for. -/
inductive Request where
  /-- An integer of a range, its ends included. -/
  | integer (low high : Value)
  /-- A text of a length; a length below one is that of the empty text. -/
  | text (length : Value)
deriving Repr

/-- What stands behind a source. -/
inductive Device where
  /-- A generator started from a seed. -/
  | seeded (seed : Int) (state : Twister)
  /-- A rule: the low end moved by an offset but not above the high end, and a text repeated. -/
  | fixed (offset : Int) (fill : String)
  /-- Choices made outside, and how many have been used. -/
  | system (choices : Nat → Nat) (used : Nat)

/-- A source of random values. -/
structure Source where
  device : Device
  requests : List Request

/-! ## Devices -/

namespace Device

/-- Draws from a seeded generator, up to the first that fails. -/
abbrev Drawing := ExceptT Error (StateM Twister)

/-- A character; it fails when a number is drawn that no character has. -/
def nextLetter : Drawing Char := do
  let k ← modifyGet fun t : Twister => t.choice alphabet.length
  match alphabet[k]? with
  | some c => return c
  | none => throw (.ordinary .badIndex "string index out of range")

/-- So many characters. -/
def letters : Nat → Drawing (List Char)
  | 0 => return []
  | n + 1 => do
    let c ← nextLetter
    return c :: (← letters n)

/-- The end of a range as a whole number: a number with a fraction, or a numeral, is refused in
words that name the end. -/
def bound (which : String) (v : Value) : Except Error Int :=
  match v.whole? with
  | some n => .ok n
  | none => do
    let n ← v.integerOf
    if (Value.int n).equal v then return n
    else throw (.ordinary .badValue ("non-integer " ++ which ++ " for randrange()"))

/-- The ends of the range that a seeded source is asked for; the sum that gives the open end is
taken first. -/
def bounds (low high : Value) : Except Error (Int × Int) := do
  let stop ← high.plusWhole 1
  let low ← bound "arg 1" low
  let stop ← bound "stop" stop
  return (low, stop - 1)

/-- How many numbers a range has, for a system source. -/
def width (low high : Value) : Except Error Nat := do
  let count ← (← high.minus low).plusWhole 1
  if ← (Value.int 0).isBelow count then
    match count.whole? with
    | some n => return n.toNat
    | none => throw (.noAttribute count.typeName "bit_length")
  else
    match count.numeric? with
    | some .notANumber => throw (.noAttribute count.typeName "bit_length")
    | _ => throw .emptyChoice

/-- The greatest width of a number that a seeded generator can be asked for at once. -/
def maxWidth : Nat := 0x7fffffff

/-- A number below a bound from a seeded generator; its width must be one that can be asked for. -/
def below (bound : Nat) (t : Twister) : Except Error (Nat × Twister) :=
  if maxWidth < Twister.bitLength bound then
    .error (.ordinary .overflow "Python int too large to convert to C int")
  else
    match t.below bound with
    | some (k, t) => .ok (k.val, t)
    | none => .error .unfinishedDraw

/-- An integer of a range. -/
def integer (d : Device) (low high : Value) : Except Error Value × Device :=
  match d with
  | .seeded seed t =>
    match bounds low high with
    | .error e => (.error e, d)
    | .ok (low, high) =>
      if low ≤ high then
        match below (high - low + 1).toNat t with
        | .ok (k, t) => (.ok (.int (low + k)), .seeded seed t)
        | .error e => (.error e, d)
      else (.error (.emptyRange low high), d)
  | .fixed offset _ =>
    let answer := do
      let moved ← low.plusWhole offset
      return if ← high.isBelow moved then high else moved
    (answer, d)
  | .system choices used =>
    match width low high with
    | .error e => (.error e, d)
    | .ok n => (low.plusWhole (choices used % n : Nat), .system choices (used + 1))

/-- A text repeated so many times. -/
def repeated (fill : String) (n : Int) : Except Error String :=
  let length := fill.length * n.toNat
  if !Value.isSize n then
    .error (.ordinary .overflow "cannot fit 'int' into an index-sized integer")
  else if length == 0 then .ok ""
  else if !Value.isSize length then .error (.ordinary .overflow "repeated string is too long")
  else if Value.maxRoom < length then .error (.ordinary .memory "")
  else .ok (String.join (List.replicate n.toNat fill))

/-- A text of a length. -/
def text (d : Device) (length : Value) : Except Error Value × Device :=
  match d, length.wholeNumber with
  | .fixed _ fill, .ok n => ((repeated fill n).map .str, d)
  | .fixed _ _, .error _ =>
    (.error (.ordinary .badType ("can't multiply sequence by non-int of type '" ++ length.typeName
      ++ "'")), d)
  | _, .error e => (.error e, d)
  | .seeded seed t, .ok n =>
    match Value.asSize n with
    | .error e => (.error e, d)
    | .ok n =>
      let (cs, t) := (letters n.toNat).run t
      (cs.map fun cs => .str (String.ofList cs), .seeded seed t)
  | .system choices used, .ok n =>
    (.ok (.str (String.ofList ((List.range n.toNat).map fun i => letter (choices (used + i))))),
      .system choices (used + n.toNat))

end Device

/-! ## Sources -/

namespace Source

/-- The source of a seed, which has to be an integer. -/
def seeded (seed : Value) : Except Error Source :=
  match seed with
  | .int n => .ok ⟨.seeded n (.ofSeed n), []⟩
  | v => .error (.seedType v.typeName)

/-- The source of a rule. -/
def fixed (offset : Int) (fill : String) : Source :=
  ⟨.fixed offset fill, []⟩

/-- The source of choices made outside. -/
def system (choices : Nat → Nat) : Source :=
  ⟨.system choices 0, []⟩

/-- Notes a request. -/
def record (s : Source) (r : Request) : Source :=
  { s with requests := s.requests ++ [r] }

/-- The answer to a request, without noting it. -/
def answer (s : Source) (r : Request) : Except Error Value × Source :=
  let (answer, device) := match r with
    | .integer low high => s.device.integer low high
    | .text length => s.device.text length
  (answer, { s with device := device })

/-- The answer to a request. -/
def draw (s : Source) (r : Request) : Except Error Value × Source :=
  (s.record r).answer r

/-- The name of the function that answers a request for a text, or for an integer. -/
def functionName (isText : Bool) : String :=
  if isText then "alphanumeric" else "integer"

/-- The parameters of the function that answers a request for a text, or for an integer. -/
def formals (isText : Bool) : List Formal :=
  if isText then [.required "self", .required "length"]
  else [.required "self", .required "low", .required "high"]

/-- The request that a call of a source makes. -/
def request (t : BuiltinType) (isText : Bool) (a : CallArguments) : Except Error Request :=
  match Formal.take (formals isText) (a.withFirst .null) with
  | .error fault => .error (.call (t.name ++ "." ++ functionName isText) fault)
  | .ok taken =>
    let given (name : String) : Value := (taken.lookup name).getD .null
    .ok (if isText then .text (given "length") else .integer (given "low") (given "high"))

/-- The answers to calls that are made one after another. A call that makes no request stays an
error, and nothing is drawn for it. -/
def drawAll (s : Source) : List (Except Error Request) → List (Except Error Value) × Source
  | [] => ([], s)
  | .error e :: rs =>
    let (answers, s) := s.drawAll rs
    (.error e :: answers, s)
  | .ok r :: rs =>
    let (answer, s) := s.draw r
    let (answers, s) := s.drawAll rs
    (answer :: answers, s)

end Source

/-- A request as a list: the name of the function, and what it is asked with. -/
def Request.toValue : Request → Value
  | .integer low high => .list [.str (Source.functionName false), low, high]
  | .text length => .list [.str (Source.functionName true), length]

end StubClass.Random
