import StubClass.Ordinary.Making

set_option autoImplicit false

/-! # Complex numbers as objects

What complex numbers do: they are added, multiplied and taken to powers with numbers of every sort,
are equal to numbers that lie on the real line, and have no order. -/

namespace StubClass

/-- The complex number that a number is. -/
def complexOperand? (x : Obj) : Run (Option Number.Complex) := do
  match (← get).body x with
  | .complex re im => return some ⟨re, im⟩
  | .float y => return some ⟨y, 0.0⟩
  | .int n => return some ⟨← orThrow (Value.toFloat n), 0.0⟩
  | _ => return none

/-! ## Arithmetic -/

/-- The answer of an operator on complex numbers. -/
def complexArithmetic (operator : String) (a b : Number.Complex) : Run Obj := do
  match operator with
  | "add" => newComplex (a.add b)
  | "sub" => newComplex (a.sub b)
  | "mul" => newComplex (a.mul b)
  | "truediv" =>
    match a.div? b with
    | some c => newComplex c
    | none => dividedByZero "complex division by zero"
  | "pow" => complexPower a b
  | _ => return .unknownOperand

/-- The answer of an operator of complex numbers on two objects. -/
def complexBinary (name : String) (x y : Obj) : Run Obj := do
  let (operator, isSwapped) := operatorOf name
  let (x, y) := if isSwapped then (y, x) else (x, y)
  match ← complexOperand? x, ← complexOperand? y with
  | some a, some b => complexArithmetic operator a b
  | _, _ => return .unknownOperand

/-- Whether a complex number is equal to a number, if that is one. -/
def complexEqual? (w : World) (re im : Float) (y : Obj) : Option Bool :=
  match w.body y with
  | .complex u v => some (re == u && im == v)
  | .float u => some (re == u && im == 0)
  | .int n => some (im == 0 && compareNumbers .eq (.float re) (.whole n))
  | _ => none

/-- Calls an operator of complex numbers. -/
def complexOperator (name : String) (x : Obj) (re im : Float) (a : Operands) : Run Obj := do
  let w ← get
  let c : Number.Complex := ⟨re, im⟩
  match name with
  | "__repr__" => do
    let _ ← expect name 0 a
    newText c.text
  | "__hash__" => do
    let _ ← expect name 0 a
    newInt (← hashOf x).toInt
  | "__bool__" => do
    let _ ← expect name 0 a
    return .bool (re != 0 || im != 0)
  | "__neg__" => do
    let _ ← expect name 0 a
    newComplex ⟨-re, -im⟩
  | "__pos__" => do
    let _ ← expect name 0 a
    if w.isExactly x .complex then return x else newComplex c
  | "__abs__" => do
    let _ ← expect name 0 a
    if re.isFinite && im.isFinite && c.length.isInf then
      throw (.ordinary .overflow "absolute value too large")
    else newFloat c.length
  | "__pow__" | "__rpow__" => do
    match ← expectBetween name 1 2 a with
    | [y, z] =>
      let answer ← if z == .none then complexBinary name x y else pure .none
      if answer == .none then throw (.badValue "complex modulo") else return answer
    | ys => complexBinary name x (ys.headD .none)
  | "__eq__" | "__ne__" => do
    let y ← expectOne name a
    return match complexEqual? w re im y with
      | some b => .bool (if name == "__eq__" then b else !b)
      | none => .unknownOperand
  | "__lt__" | "__le__" | "__gt__" | "__ge__" => do
    let _ ← expectOne name a
    return .unknownOperand
  | _ => complexBinary name x (← expectOne name a)

/-! ## Methods -/

/-- A complex number in a form. -/
def complexFormatted (x : Obj) (c : Number.Complex) (form : String) : Run String := do
  let f ← readForm x '>' none form
  let f := if f.letter == some Text.Form.noLetter then { f with letter := none } else f
  if (f.letter.any fun l => l != 'n' && (l == '%' || !floatLetters.contains l)) then
    unknownLetter x (f.letter.getD ' ')
  else if f.fill == '0' then
    throw (.badValue "Zero padding is not allowed in complex format specifier")
  else if f.align == '=' then
    throw (.badValue "'=' alignment flag is not allowed in complex format specifier")
  else
    match f.precision with
    | some n => do
      if 2147483647 < n then throw (.badValue "precision too big")
      requireRoom n
    | none => pure ()
    requireRoom f.width
    return String.ofList (c.inForm f)

/-- A method of complex numbers. -/
def complexMethod (name function : String) (x : Obj) (re im : Float) (a : Operands) : Run Obj := do
  match name with
  | "conjugate" => do
    takeNone function a
    newComplex ⟨re, -im⟩
  | "__complex__" => do
    takeNone function a
    if (← get).isExactly x .complex then return x else newComplex ⟨re, im⟩
  | "__getnewargs__" => do
    takeNone function a
    newTuple [← newFloat re, ← newFloat im]
  | "__format__" => do
    let form ← formArgument function a
    if form.isEmpty then plainOf x else newText (← complexFormatted x ⟨re, im⟩ form)
  | _ => notProvided function

/-! ## Making -/

/-- The complex number that an argument stands for, and whether it has an imaginary part of its own.
-/
def complexPart (refusal : String) (x : Obj) : Run (Number.Complex × Bool) := do
  let w ← get
  let x ← match w.body x with
    | .complex _ _ => pure x
    | _ =>
      match ← callSpecial? x "__complex__" [] with
      | none => pure x
      | some y =>
        match (← get).body y with
        | .complex _ _ => pure y
        | _ =>
          throw (.badType ("__complex__ returned non-complex (type " ++ (← get).clippedTitle y
            ++ ")"))
  let w ← get
  match w.body x with
  | .complex re im => return (⟨re, im⟩, true)
  | _ =>
    if (w.special? x "__float__").isSome || (w.special? x "__index__").isSome then
      return (⟨← floatOf x, 0.0⟩, false)
    else throw (.badType (refusal ++ ", not '" ++ w.clippedTitle x ++ "'"))

/-- Makes a complex number. -/
def makeComplex (c : Obj) (a : Operands) : Run Obj := do
  let given ← passTo "complex" ["real", "imag"] a
  let w ← get
  let first := givenAt given 0
  let second := givenAt given 1
  match first.map w.body, second.map w.body with
  | some (.complex _ _), none =>
    if c == .type .complex && (first.any fun x => w.isExactly x .complex) then
      return first.getD .none
  | some (.str text), none =>
    match Number.Complex.read? text with
    | some z => return (← makeOfClass c (.complex z.re z.im))
    | none => throw (.badValue "complex() arg is a malformed string")
  | some (.str _), some _ =>
    throw (.badType "complex() can't take second arg if first is a string")
  | _, some (.str _) => throw (.badType "complex() second arg can't be a string")
  | _, _ => pure ()
  let (re, isComplex) ← match first with
    | some x => complexPart "complex() first argument must be a string or a number" x
    | none => pure (⟨0.0, 0.0⟩, false)
  match second with
  | none => makeOfClass c (.complex re.re re.im)
  | some y => do
    let (im, isTurned) ← complexPart "complex() second argument must be a number" y
    let real := if isTurned then re.re - im.im else re.re
    makeOfClass c (.complex real (if isComplex then im.re + re.im else im.re))

end StubClass
