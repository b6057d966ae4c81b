import StubClass.Ordinary.Number

set_option autoImplicit false

/-! # Numbers that objects stand for

An object stands for a number by a function of its class, or as a text or bytes in which a number is
written. -/

namespace StubClass

/-! ## Whole numbers -/

/-- Bytes as text: those that are no characters of ASCII stand for none that a number is written
with. -/
def plainCharacters (bs : List UInt8) : String :=
  String.ofList (bs.map fun b => if b < 128 then Char.ofNat b.toNat else '\uFFFD')

/-- Reads a whole number in a base from a text; `literal` is what is written out if it is none. -/
def readWhole (base : Nat) (text : String) (literal : Obj) : Run Int := do
  let digits := Number.countDigits text.toList
  if Number.maxDigits < digits && [2, 4, 8, 16, 32].all (· != base) then
    throw (tooManyDigits (some digits))
  else
    match Number.readIntegerIn? base text with
    | some n => return n
    | none =>
      failWith .badValue literal fun written =>
        "invalid literal for int() with base " ++ counted base ++ ": "
          ++ String.ofList (written.toList.take Value.shownNumeral)

/-- Reads a whole number in a base from bytes, which are written as bytes whatever their class. -/
def readWholeBytes (base : Nat) (bs : List UInt8) : Run Int := do
  readWhole base (plainCharacters bs) (← newBytes (bs.take Value.shownNumeral))

/-- The whole number that an answer has to be. -/
def wholeAnswer (name : String) (x : Obj) : Run Int := do
  let w ← get
  match w.whole? x with
  | some n => return n
  | none =>
    throw (.badType (name ++ " returned non-int (type " ++ Text.clip 200 (w.typeTitle x) ++ ")"))

/-- The whole number that an object is made into. -/
def wholeFrom (x : Obj) : Run Int := do
  let w ← get
  match w.special? x "__int__", w.special? x "__index__", w.special? x "__trunc__" with
  | some hook, _, _ => do wholeAnswer "__int__" (← callHook x hook [])
  | none, some _, _ => indexOf x
  | none, none, some hook => do
    let y ← callHook x hook []
    let w ← get
    match w.whole? y with
    | some n => return n
    | none =>
      if (w.special? y "__index__").isSome then indexOf y
      else
        throw (.badType ("__trunc__ returned non-Integral (type "
          ++ Text.clip 200 (w.typeTitle y) ++ ")"))
  | none, none, none =>
    match w.body x with
    | .str text => readWhole 10 text x
    | .bytes bs => readWholeBytes 10 bs
    | _ =>
      throw (.badType ("int() argument must be a string, a bytes-like object or a real number, "
        ++ "not '" ++ w.clippedTitle x ++ "'"))

/-! ## Floating point numbers -/

/-- The floating point number that an object stands for. -/
def floatOf (x : Obj) : Run Float := do
  let w ← get
  match w.body x with
  | .float y => return y
  | .int n => orThrow (Value.toFloat n)
  | _ =>
    match ← callSpecial? x "__float__" [] with
    | some r =>
      match (← get).body r with
      | .float y => return y
      | _ =>
        throw (.badType (Text.clip 50 (w.typeTitle x) ++ ".__float__ returned non-float (type "
          ++ Text.clip 50 ((← get).typeTitle r) ++ ")"))
    | none =>
      if (w.special? x "__index__").isSome then do
        orThrow (Value.toFloat (← indexOf x))
      else throw (.badType ("must be real number, not " ++ Text.clip 50 (w.typeTitle x)))

/-- Reads a floating point number from a text. -/
def readFloat (x : Obj) (text : String) : Run Float := do
  match Number.readWrittenFloat? text with
  | some y => return y
  | none => failWith .badValue x ("could not convert string to float: " ++ ·)

/-- The floating point number that an object is made into. -/
def floatFrom (x : Obj) : Run Float := do
  let w ← get
  match w.body x, w.special? x "__float__" with
  | .float y, some (.held _ _) => return y
  | .str text, none => readFloat x text
  | .bytes bs, none => readFloat x (plainCharacters bs)
  | _, none =>
    if (w.special? x "__index__").isSome then do orThrow (Value.toFloat (← indexOf x))
    else
      throw (.badType ("float() argument must be a string or a real number, not '"
        ++ w.clippedTitle x ++ "'"))
  | _, some _ => floatOf x

end StubClass
