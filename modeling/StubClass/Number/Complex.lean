import StubClass.Number.Styled

set_option autoImplicit false

/-! # Complex numbers

Complex numbers as pairs of floating point numbers. A quotient is worked out by the ratio of the
parts of the divisor, the smaller one over the larger one, so that nothing overflows on the way; a
power with a small whole exponent by squaring, any other one by length and angle. -/

namespace StubClass.Number

/-- A complex number. -/
structure Complex where
  re : Float
  im : Float
deriving Repr, Inhabited

/-- Why a power cannot be worked out. -/
inductive PowerFault where
  | zeroBase
  | tooLarge
deriving Repr, DecidableEq

namespace Complex

/-! ## Arithmetic -/

/-- The sum. -/
def add (a b : Complex) : Complex :=
  ⟨a.re + b.re, a.im + b.im⟩

/-- The difference. -/
def sub (a b : Complex) : Complex :=
  ⟨a.re - b.re, a.im - b.im⟩

/-- The product. -/
def mul (a b : Complex) : Complex :=
  ⟨a.re * b.re - a.im * b.im, a.re * b.im + a.im * b.re⟩

/-- The quotient, unless the divisor is zero. -/
def div? (a b : Complex) : Option Complex :=
  if b.im.abs ≤ b.re.abs then
    if b.re == 0 then none
    else
      let ratio := b.im / b.re
      let divisor := b.re + b.im * ratio
      some ⟨(a.re + a.im * ratio) / divisor, (a.im - a.re * ratio) / divisor⟩
  else if b.re.abs ≤ b.im.abs then
    let ratio := b.re / b.im
    let divisor := b.re * ratio + b.im
    some ⟨(a.re * ratio + a.im) / divisor, (a.im * ratio - a.re) / divisor⟩
  else some ⟨0.0 / 0.0, 0.0 / 0.0⟩

/-- The whole part of the square root of a number, from its greatest binary digit on: `root` is what
the digits so far make, and `bits` how many are left. -/
def wholeRoot (n : Nat) : (bits root : Nat) → Nat
  | 0, root => root
  | bits + 1, root =>
    let next := root + twoPow bits
    wholeRoot n bits (if next * next ≤ n then next else root)

/-- The floating point number that is nearest to the square root of a fraction. -/
def nearestRoot (num den : Nat) : Float :=
  let shift := 64 + den.log2
  let scaled := num * twoPow (2 * shift)
  let n := scaled / den
  let root := wholeRoot n (n.log2 / 2 + 1) 0
  let isExact := root * root == n && scaled % den == 0
  nearest (if isExact then 2 * root else 2 * root + 1) (twoPow (shift + 1))

/-- The length. -/
def length (a : Complex) : Float :=
  match read a.re, read a.im with
  | .infinite _, _ | _, .infinite _ => 1.0 / 0.0
  | .finite _ x, .finite _ y =>
    let u := x.num * y.den
    let v := y.num * x.den
    let den := x.den * y.den
    nearestRoot (u * u + v * v) (den * den)
  | _, _ => 0.0 / 0.0

/-- A power with a whole exponent; `fuel` bounds its binary digits, and `square` is the base for the
digit that comes next. -/
def wholePower : (fuel : Nat) → (result square : Complex) → Nat → Complex
  | 0, result, _, _ => result
  | fuel + 1, result, square, n =>
    if n == 0 then result
    else
      wholePower fuel (if n % 2 == 1 then result.mul square else result) (square.mul square) (n / 2)

/-- A power by length and angle. -/
def turnedPower (a b : Complex) : Complex :=
  let length := a.length
  let angle := Float.atan2 a.im a.re
  let phase := angle * b.re
  let size := length.pow b.re
  if b.im == 0 then ⟨size * phase.cos, size * phase.sin⟩
  else
    let size := size / (angle * b.im).exp
    let phase := phase + b.im * length.log
    ⟨size * phase.cos, size * phase.sin⟩

/-- Whether the angle of a power is infinite. -/
def isWild (a b : Complex) : Bool :=
  let phase := Float.atan2 a.im a.re * b.re
  (if b.im == 0 then phase else phase + b.im * a.length.log).isInf

/-- A power. -/
def power (a b : Complex) : Except PowerFault Complex := do
  let isWhole := b.im == 0 && b.re == b.re.floor && b.re.abs ≤ 100
  let one : Complex := ⟨1.0, 0.0⟩
  let result ←
    if isWhole && 0 < b.re then pure (wholePower 7 one a b.re.toUInt64.toNat)
    else if isWhole then
      match one.div? (wholePower 7 one a (-b.re).toUInt64.toNat) with
      | some q => pure q
      | none => throw .zeroBase
    else if a.re == 0 && a.im == 0 then
      if b.im != 0 || b.re < 0 then throw .zeroBase else pure ⟨0.0, 0.0⟩
    else
      let result := turnedPower a b
      if isWild a b then throw .zeroBase else pure result
  if result.re.isInf || result.im.isInf then throw .tooLarge else return result

/-! ## Writing -/

/-- A part in natural notation, without places that are all zero. -/
def partChars (x : Float) : List Char :=
  let cs := floatChars x
  if cs.drop (cs.length - 2) == ['.', '0'] then cs.take (cs.length - 2) else cs

/-- Whether the real part is not written. -/
def isPurely (a : Complex) : Bool :=
  a.re == 0 && a.re.toBits == (0.0 : Float).toBits

/-- A part with its sign in front, whatever that is. -/
def withSign (cs : List Char) : List Char :=
  if cs.head? == some '-' then cs else '+' :: cs

/-- A number in natural notation. -/
def text (a : Complex) : String :=
  String.ofList <|
    if a.isPurely then partChars a.im ++ ['j']
    else '(' :: partChars a.re ++ withSign (partChars a.im) ++ ['j', ')']

/-- A part in a form, without the filling of the form. -/
def partInForm (f : Text.Form) (sign : Option Char) (x : Float) : List Char :=
  let f : Text.Form := { f with fill := ' ', align := '>', width := 0, sign }
  match f.letter, f.precision with
  | none, none =>
    let cs := floatInForm f x
    if cs.drop (cs.length - 2) == ['.', '0'] then cs.take (cs.length - 2) else cs
  | none, some _ => floatInForm { f with letter := some 'g' } x
  | _, _ => floatInForm f x

/-- A number in a form. -/
def inForm (f : Text.Form) (a : Complex) : List Char :=
  let isBare := f.letter.isNone
  let re := if isBare && a.isPurely then [] else partInForm f f.sign a.re
  let imSign := if isBare && a.isPurely then f.sign else some '+'
  let cs := re ++ partInForm f imSign a.im ++ ['j']
  f.pad (if isBare && !a.isPurely then '(' :: cs ++ [')'] else cs)

/-! ## Reading -/

/-- Reads a part that has no blanks. -/
def readPart? (cs : List Char) : Option Float :=
  if cs.any isBlank then none
  else if cs == [] || cs == ['+'] then some 1.0
  else if cs == ['-'] then some (-1.0)
  else readWrittenFloat? (String.ofList cs)

/-- The first way to read characters as a real part of a length or of a smaller one, followed by an
imaginary part. -/
def readSplit? (cs : List Char) : Nat → Option Complex
  | 0 => (readPart? cs).map fun im => ⟨0.0, im⟩
  | n + 1 =>
    let front := cs.take (n + 1)
    let rest := cs.drop (n + 1)
    let isSigned := rest.head? == some '+' || rest.head? == some '-'
    let read : Option Complex := do
      if !isSigned || front == ['+'] || front == ['-'] then failure
      let re ← readPart? front
      let im ← readPart? rest
      return ⟨re, im⟩
    read <|> readSplit? cs n

/-- Reads a number written by hand. -/
def read? (text : String) : Option Complex := do
  let cs := trimBlanks text.toList
  let cs ← match cs with
    | '(' :: inner =>
      if inner.getLast? == some ')' then some (trimBlanks inner.dropLast) else none
    | cs => some cs
  match cs.getLast? with
  | none => none
  | some c =>
    if c == 'j' || c == 'J' then readSplit? cs.dropLast cs.dropLast.length
    else if cs.any isBlank then none
    else (readWrittenFloat? (String.ofList cs)).map fun re => ⟨re, 0.0⟩

end Complex

end StubClass.Number
