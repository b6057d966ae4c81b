import StubClass.Number.Complex
import StubClass.Number.Hexadecimal
import StubClass.Ordinary.Argument

set_option autoImplicit false

/-! # Numbers

What whole and floating point numbers do: arithmetic by operators, their order, the forms that they
are written in, and what there is to say of them. An operator does not know operands that are not
numbers, and one of whole numbers leaves floating point numbers to the other side. -/

namespace StubClass

/-- The failure of a function that this library does not provide. -/
def notProvided {α : Type} (function : String) : Run α :=
  throw (.ordinary .runtime (function ++ "() is not provided"))

/-- A number as an operand. -/
inductive Operand where
  | whole (n : Int)
  | float (x : Float)

/-- The number that an object is. -/
def World.operand? (w : World) (x : Obj) : Option Operand :=
  match w.body x with
  | .int n => some (.whole n)
  | .float y => some (.float y)
  | _ => none

/-- The floating point number of an operand. -/
def Operand.toFloat : Operand → Run Float
  | whole n => orThrow (Value.toFloat n)
  | float x => return x

/-! ## Writing -/

/-- The failure of a numeral that is too long. -/
def tooManyDigits (digits : Option Nat) : Failure :=
  .badValue
    (Number.tooManyDigits ((digits.map fun n => ": value has " ++ counted n ++ " digits").getD ""))

/-- A whole number in decimal digits. -/
def wholeText (n : Int) : Run String :=
  if n.natAbs < Number.tooLong then return (Value.int n).literal else throw (tooManyDigits none)

/-- Reads a form for an object. -/
def readForm (x : Obj) (align : Char) (standard : Option Char) (form : String) :
    Run Text.Form := do
  match Text.Form.read align standard form with
  | .ok f => return f
  | .error fault => throw (.badValue (fault.message form ((← get).clippedTitle x)))

/-- The failure of a letter that is no way of writing an object. -/
def unknownLetter {α : Type} (x : Obj) (c : Char) : Run α := do
  throw (.badValue ("Unknown format code '" ++ Text.shownLetter c ++ "' for object of type '"
    ++ (← get).clippedTitle x ++ "'"))

/-- Refuses a sign and other marks in a form for one character. -/
def refuseMarks (f : Text.Form) : Run Unit :=
  if f.sign.isSome then
    throw (.badValue "Sign not allowed with integer format specifier 'c'")
  else if f.alternate then
    throw (.badValue "Alternate form (#) not allowed with integer format specifier 'c'")
  else return ()

/-- The letters for floating point numbers. -/
def floatLetters : List Char :=
  ['e', 'E', 'f', 'F', 'g', 'G', '%']

/-- A floating point number in a form for such numbers. -/
def floatWritten (f : Text.Form) (y : Float) : Run String := do
  requireRoom f.width
  match f.precision with
  | some n => do
    if 2147483647 < n then throw (.badValue "precision too big")
    requireRoom n
  | none => pure ()
  return String.ofList (Number.floatInForm f y)

/-- The letters for whole numbers. -/
def wholeLetters : List Char :=
  ['b', 'c', 'd', 'n', 'o', 'x', 'X']

/-- A whole number in a form. -/
def wholeFormatted (x : Obj) (n : Int) (form : String) : Run String := do
  let f ← readForm x '>' (some 'd') form
  let letter := f.letter.getD 'd'
  if floatLetters.contains letter then
    floatWritten f (← orThrow (Value.toFloat n))
  else if !wholeLetters.contains letter then unknownLetter x letter
  else if f.precision.isSome then
    throw (.badValue "Precision not allowed in integer format specifier")
  else if f.plainZero then
    throw (.badValue "Negative zero coercion (z) not allowed in integer format specifier")
  else if letter == 'c' then do
    refuseMarks f
    if 0 ≤ n && n < 0x110000 then do
      requireRoom f.width
      return String.ofList (f.layOut false [] [Char.ofNat n.toNat] [])
    else if Value.isSize n then throw (.ordinary .overflow "%c arg not in range(0x110000)")
    else throw (.ordinary .overflow "Python int too large to convert to C long")
  else if ['d', 'n'].contains letter && Number.tooLong ≤ n.natAbs then throw (tooManyDigits none)
  else do
    requireRoom f.width
    return String.ofList (Number.wholeInForm f n)

/-- A floating point number in a form. -/
def floatFormatted (x : Obj) (y : Float) (form : String) : Run String := do
  let f ← readForm x '>' none form
  match f.letter with
  | none => floatWritten f y
  | some c =>
    if c == 'n' || floatLetters.contains c then floatWritten f y
    else if c == Text.Form.noLetter then floatWritten { f with letter := none } y
    else unknownLetter x c

/-! ## Arithmetic -/

/-- The failure of a division by zero. -/
def dividedByZero {α : Type} (message : String) : Run α :=
  throw (.ordinary .zeroDivision message)

/-- The integer quotient that is not above the quotient, and the remainder that goes with it. -/
def floorDivision (m n : Int) : Int × Int :=
  (m.fdiv n, m.fmod n)

/-- The most binary digits of a number that is worked out. -/
def maxBits : Nat := 16000000

/-- A power of two as a factor. -/
def powerOfTwo (n : Nat) : Run Int := do
  if maxBits < n then noRoom else return (Number.twoPow n : Nat)

/-- A power of a whole number. -/
def wholePower (m : Int) (k : Nat) : Run Int := do
  if m.natAbs ≤ 1 then return if m == -1 && k % 2 == 0 then 1 else if m == 0 && k == 0 then 1 else m
  else if maxBits < (m.natAbs.log2 + 1) * k then noRoom
  else return Int.pow m k

/-- A complex number as an object. -/
def newComplex (a : Number.Complex) : Run Obj :=
  makeOf .complex (.complex a.re a.im)

/-- A power of complex numbers. -/
def complexPower (a b : Number.Complex) : Run Obj :=
  match a.power b with
  | .ok c => newComplex c
  | .error .zeroBase => dividedByZero "0.0 to a negative or complex power"
  | .error .tooLarge => throw (.ordinary .overflow "complex exponentiation")

/-- A power of a floating point number: a negative one to the power of a number that is not whole is
outside the real line. -/
def floatPower (x y : Float) : Run Obj := do
  if x < 0 && x.isFinite && y.isFinite && y != y.floor then complexPower ⟨x, 0.0⟩ ⟨y, 0.0⟩
  else if x == 0 && y < 0 && !y.isInf then dividedByZero "0.0 cannot be raised to a negative power"
  else
    let z := x.pow y
    if z.isInf && !x.isInf && !y.isInf then
      throw (.ordinary .overflow "(34, 'Numerical result out of range')")
    else newFloat z

/-- The bits of two whole numbers put together. -/
def bitwise (f : Bool → Bool → Bool) (m n : Int) : Int :=
  let width := max m.natAbs n.natAbs |>.log2 |> (· + 2)
  let bit (k : Int) (i : Nat) : Bool := k.fdiv (Number.twoPow i : Nat) % 2 == 1
  let sum := (List.range width).foldl
    (fun (s : Int) i => if f (bit m i) (bit n i) then s + (Number.twoPow i : Nat) else s) 0
  if f (m < 0) (n < 0) then sum - (Number.twoPow width : Nat) else sum

/-- The answer of an operator on whole numbers. -/
def wholeArithmetic (operator : String) (m n : Int) : Run (Option Obj) := do
  match operator with
  | "add" => some <$> newInt (m + n)
  | "sub" => some <$> newInt (m - n)
  | "mul" => some <$> newInt (m * n)
  | "floordiv" =>
    if n == 0 then dividedByZero "integer division or modulo by zero"
    else some <$> newInt (floorDivision m n).1
  | "mod" =>
    if n == 0 then dividedByZero "integer modulo by zero" else some <$> newInt (floorDivision m n).2
  | "divmod" =>
    if n == 0 then dividedByZero "integer division or modulo by zero"
    else do
      let (q, r) := floorDivision m n
      some <$> newTuple [← newInt q, ← newInt r]
  | "truediv" =>
    if n == 0 then dividedByZero "division by zero"
    else
      let x := Number.withSign ((m < 0) != (n < 0)) (Number.nearest m.natAbs n.natAbs)
      if x.isInf then
        throw (.ordinary .overflow "integer division result too large for a float")
      else some <$> newFloat x
  | "pow" =>
    if 0 ≤ n then do some <$> newInt (← wholePower m n.toNat)
    else do some <$> floatPower (← orThrow (Value.toFloat m)) (← orThrow (Value.toFloat n))
  | "lshift" =>
    if n < 0 then throw (.badValue "negative shift count")
    else if m == 0 then some <$> newInt 0
    else if Value.maxSize < n then throw (.ordinary .overflow "too many digits in integer")
    else do some <$> newInt (m * (← powerOfTwo n.toNat))
  | "rshift" =>
    if n < 0 then throw (.badValue "negative shift count")
    else if m.natAbs.log2 + 1 < n then some <$> newInt (if m < 0 then -1 else 0)
    else some <$> newInt (m.fdiv (Number.twoPow n.toNat : Nat))
  | "and" => some <$> newInt (bitwise (· && ·) m n)
  | "or" => some <$> newInt (bitwise (· || ·) m n)
  | "xor" => some <$> newInt (bitwise (· != ·) m n)
  | _ => return none

/-- Whether a floating point number has a minus sign. -/
def hasMinus (x : Float) : Bool :=
  x.toBits.toNat / Number.twoPow 63 == 1

/-- The quotient that is not above the quotient of two floating point numbers, and what remains with
the sign of the second one. -/
def floatDivision (x y : Float) : Float × Float :=
  let r := Number.remainder x y
  let q := (x - r) / y
  let (q, r) :=
    if r == 0 then (q, Number.withSign (y < 0) 0.0)
    else if (y < 0) != (r < 0) then (q - 1, r + y)
    else (q, r)
  let below := q.floor
  (if q == 0 then Number.withSign (hasMinus (x / y)) 0.0
    else if 0.5 < q - below then below + 1 else below, r)

/-- The answer of an operator on floating point numbers. -/
def floatArithmetic (operator : String) (x y : Float) : Run (Option Obj) := do
  match operator with
  | "add" => some <$> newFloat (x + y)
  | "sub" => some <$> newFloat (x - y)
  | "mul" => some <$> newFloat (x * y)
  | "truediv" =>
    if y == 0 then dividedByZero "float division by zero" else some <$> newFloat (x / y)
  | "floordiv" =>
    if y == 0 then dividedByZero "float floor division by zero"
    else some <$> newFloat (floatDivision x y).1
  | "mod" =>
    if y == 0 then dividedByZero "float modulo" else some <$> newFloat (floatDivision x y).2
  | "divmod" =>
    if y == 0 then dividedByZero "float divmod()"
    else do
      let (q, r) := floatDivision x y
      some <$> newTuple [← newFloat q, ← newFloat r]
  | "pow" => some <$> floatPower x y
  | _ => return none

/-- The operator of a name, and whether its sides are exchanged. -/
def operatorOf (name : String) : String × Bool :=
  let bare := ((name.drop 2).dropEnd 2).toString
  if bare.startsWith "r" && bare != "rshift" then ((bare.drop 1).toString, true) else (bare, false)

/-- The answer of an operator of a type of numbers on two objects. -/
def arithmetic (t : BuiltinType) (name : String) (x y : Obj) : Run Obj := do
  let w ← get
  let (operator, isSwapped) := operatorOf name
  let (x, y) := if isSwapped then (y, x) else (x, y)
  let answer ← match t, w.operand? x, w.operand? y with
    | .float, some a, some b => do floatArithmetic operator (← a.toFloat) (← b.toFloat)
    | _, some (.whole m), some (.whole n) =>
      match x, y with
      | .bool a, .bool b =>
        match operator with
        | "and" => pure (some (.bool (a && b)))
        | "or" => pure (some (.bool (a || b)))
        | "xor" => pure (some (.bool (a != b)))
        | _ => wholeArithmetic operator m n
      | _, _ => wholeArithmetic operator m n
    | _, _, _ => pure none
  return answer.getD .unknownOperand

/-- The remainder of a power after a division; `fuel` bounds the binary digits of the exponent. -/
def powerModulo (n : Nat) : (fuel m k : Nat) → Nat
  | 0, _, _ => 1 % n
  | fuel + 1, m, k =>
    let square := powerModulo n fuel (m * m % n) (k / 2)
    if k % 2 == 1 then m * square % n else square

/-- The factor of a number that is one more than a multiple of a third one; `fuel` bounds the steps.
The remainder `r` of the number is `s` times the number, up to multiples, and so are `next` and
`factor`. -/
def inverseModulo? : (fuel : Nat) → (r next s factor : Int) → Option Int
  | 0, _, _, _, _ => none
  | fuel + 1, r, next, s, factor =>
    if next == 0 then if r == 1 then some s else none
    else inverseModulo? fuel next (r.fmod next) factor (s - r.fdiv next * factor)

/-- A power in whole numbers, without multiples of a third one. -/
def modularPower (x y z : Obj) : Run Obj := do
  let w ← get
  match w.whole? x, w.whole? y, w.whole? z with
  | some _, some _, some 0 => throw (.badValue "pow() 3rd argument cannot be 0")
  | some m, some k, some n =>
    let modulus := n.natAbs
    let base? := if k < 0 && modulus != 1 then
        inverseModulo? (2 * modulus.log2 + 4) modulus (m.fmod modulus) 0 1
      else some m
    match base? with
    | none => throw (.badValue "base is not invertible for the given modulus")
    | some base =>
      let r : Int :=
        powerModulo modulus (k.natAbs.log2 + 1) (base.fmod modulus).toNat k.natAbs
      newInt (r.fmod n)
  | _, _, _ => return .unknownOperand

/-! ## Order -/

/-- The order of two magnitudes, if they have one. -/
def Numeric.ordering? : Numeric → Numeric → Option Ordering
  | notANumber, _ | _, notANumber => none
  | infinite a, infinite b => some (if a == b then .eq else if a then .lt else .gt)
  | infinite a, finite _ => some (if a then .lt else .gt)
  | finite _, infinite b => some (if b then .gt else .lt)
  | finite x, finite y => some (if x < y then .lt else if x = y then .eq else .gt)

/-- The magnitude of an operand. -/
def Operand.magnitude : Operand → Numeric
  | whole n => .finite (Dyadic.ofIntWithPrec n 0)
  | float x => .ofFloat x

/-- Whether an operator is one that compares, or none. -/
def compareNumbers (c : Comparison) (x y : Operand) : Bool :=
  match x.magnitude.ordering? y.magnitude with
  | some o => c.ofOrdering o
  | none => c == .ne

/-- The answer of a comparison of a type of numbers. -/
def numberComparison (t : BuiltinType) (c : Comparison) (x y : Obj) : Run Obj := do
  let w ← get
  match t, w.operand? x, w.operand? y with
  | .float, some a, some b => return .bool (compareNumbers c a b)
  | _, some (.whole m), some (.whole n) =>
    return .bool (compareNumbers c (.whole m) (.whole n))
  | _, _, _ => return .unknownOperand

/-! ## Operators by name -/

/-- The whole number before the point of a number, or none above or below it. -/
def roundedBy (name : String) (y : Float) : Run Obj := do
  let n ← orThrow (Value.truncated y)
  match name with
  | "__floor__" => newInt (if y < 0 && Float.ofInt n != y then n - 1 else n)
  | "__ceil__" => newInt (if 0 < y && Float.ofInt n != y then n + 1 else n)
  | _ => newInt n

/-- Calls an operator of a type of numbers. -/
def numberOperator (t : BuiltinType) (name : String) (x : Obj) (a : Operands) : Run Obj := do
  let w ← get
  match name, w.body x with
  | "__repr__", .int n => do
    let _ ← expect name 0 a
    if t == .bool then return .word (if n == 0 then "False" else "True")
    else newText (← wholeText n)
  | "__repr__", .float y => do
    let _ ← expect name 0 a
    newText (Number.floatText y)
  | "__bool__", b => do
    let _ ← expect name 0 a
    return .bool (b.truth?.getD true)
  | "__hash__", _ => do
    let _ ← expect name 0 a
    newInt (← hashOf x).toInt
  | "__int__", .float y => do
    let _ ← expect name 0 a
    newInt (← orThrow (Value.truncated y))
  | "__int__", .int n | "__index__", .int n | "__pos__", .int n => do
    let _ ← expect name 0 a
    if w.isExactly x .int then return x else newInt n
  | "__float__", .int n => do
    let _ ← expect name 0 a
    newFloat (← orThrow (Value.toFloat n))
  | "__float__", .float y | "__pos__", .float y => do
    let _ ← expect name 0 a
    if w.isExactly x .float then return x else newFloat y
  | "__neg__", .int n => do
    let _ ← expect name 0 a
    newInt (-n)
  | "__neg__", .float y => do
    let _ ← expect name 0 a
    newFloat (-y)
  | "__abs__", .int n => do
    let _ ← expect name 0 a
    newInt n.natAbs
  | "__abs__", .float y => do
    let _ ← expect name 0 a
    newFloat y.abs
  | "__invert__", .int n => do
    let _ ← expect name 0 a
    newInt (-n - 1)
  | "__pow__", _ | "__rpow__", _ => do
    match ← expectBetween name 1 2 a with
    | [y, z] =>
      if z == .none then arithmetic t name x y
      else if t == .float then
        throw (.badType "pow() 3rd argument not allowed unless all arguments are integers")
      else if name == "__pow__" then modularPower x y z
      else modularPower y x z
    | ys => arithmetic t name x (ys.headD .none)
  | _, _ =>
    match Comparison.ofName? name with
    | some c => do numberComparison t c x (← expectOne name a)
    | none => do arithmetic t name x (← expectOne name a)

/-! ## Methods -/

/-- The number of binary digits. -/
def bitLength (n : Nat) : Nat :=
  if n == 0 then 0 else n.log2 + 1

/-- How many binary digits of a number are ones. -/
def bitCount (n : Nat) : Nat :=
  (List.range (bitLength n)).countP n.testBit

/-- The bytes of a number, the least significant first. -/
def bytesOfNat : (count : Nat) → Nat → List UInt8
  | 0, _ => []
  | count + 1, n => UInt8.ofNat (n % 256) :: bytesOfNat count (n / 256)

/-- The number of bytes, the least significant first. -/
def natOfBytes (bs : List UInt8) : Nat :=
  bs.foldr (fun b n => 256 * n + b.toNat) 0

/-- The order of bytes that an argument gives, if it is given. -/
def byteOrderText (function : String) (x : Option Obj) : Run (Option String) :=
  x.mapM (textArgument (function ++ "() argument 'byteorder'"))

/-- Whether bytes stand with the most significant first. -/
def isBigFirst (order : Option String) : Run Bool :=
  match order.getD "big" with
  | "big" => return true
  | "little" => return false
  | _ => throw (.badValue "byteorder must be either 'little' or 'big'")

/-- A whole number as bytes. -/
def wholeToBytes (n : Int) (a : Operands) : Run Obj := do
  let given ← passBetween 0 2 "to_bytes" ["length", "byteorder", "signed"] a
  let length ← match givenAt given 0 with
    | some x => sizeArgument x
    | none => pure 1
  let order ← byteOrderText "to_bytes" (givenAt given 1)
  let isSigned ← match givenAt given 2 with
    | some x => truthOf x
    | none => pure false
  let isBig ← isBigFirst order
  if length < 0 then throw (.badValue "length argument must be non-negative")
  else if n < 0 && !isSigned then
    throw (.ordinary .overflow "can't convert negative int to unsigned")
  else
    let room ← powerOfTwo (8 * length.toNat)
    let fits := if isSigned then -room ≤ 2 * n && 2 * n < room else n < room
    if fits then
      let bs := bytesOfNat length.toNat (n.fmod room).toNat
      newBytes (if isBig then bs.reverse else bs)
    else throw (.ordinary .overflow "int too big to convert")

/-- A fraction as a pair of whole numbers. -/
def ratioOf (y : Float) : Run Obj := do
  match Number.read y with
  | .notANumber => throw (.badValue "cannot convert NaN to integer ratio")
  | .infinite _ => throw (.ordinary .overflow "cannot convert Infinity to integer ratio")
  | .finite negative m =>
    let d := m.num.gcd m.den
    let n : Int := (m.num / d : Nat)
    newTuple [← newInt (if negative then -n else n), ← newInt (m.den / d)]

/-- A whole number rounded to places before the point. -/
def wholeRounded (function : String) (n : Int) (a : Operands) : Run Obj := do
  match ← takeBetween function "__round__" 0 1 a with
  | [] => newInt n
  | x :: _ => do
    let places ← indexOf x
    if 0 ≤ places then newInt n
    else if n.natAbs.log2 < (-places).toNat then newInt 0
    else
      let unit := Number.tenPow (-places).toNat
      let r : Int := (Number.roundEven n.natAbs unit * unit : Nat)
      newInt (if n < 0 then -r else r)

/-- A floating point number rounded to places after the point. -/
def floatRounded (function : String) (y : Float) (a : Operands) : Run Obj := do
  match ← takeBetween function "__round__" 0 1 a with
  | [] | [.none] =>
    let _ ← orThrow (Value.truncated y)
    match Number.read y with
    | .finite negative m =>
      let r : Int := (Number.roundEven m.num m.den : Nat)
      newInt (if negative then -r else r)
    | _ => newInt 0
  | x :: _ => do
    let places ← indexOf x
    let z := Number.roundedTo places y
    if z.isInf && !y.isInf then
      throw (.ordinary .overflow "rounded value too large to represent")
    else newFloat z

/-- The text that a form is given by. -/
def formArgument (function : String) (a : Operands) : Run String := do
  textArgument "__format__() argument" (← takeOne function a)

/-- A method of a number. -/
def numberMethod (name function : String) (x : Obj) (a : Operands) : Run Obj := do
  let w ← get
  match name, w.body x with
  | "__format__", .int n => do
    let form ← formArgument function a
    if form.isEmpty then plainOf x else newText (← wholeFormatted x n form)
  | "__format__", .float y => do
    let form ← formArgument function a
    if form.isEmpty then plainOf x else newText (← floatFormatted x y form)
  | "__round__", .int n => wholeRounded function n a
  | "__round__", .float y => floatRounded function y a
  | "to_bytes", .int n => wholeToBytes n a
  | "__trunc__", .float y | "__floor__", .float y | "__ceil__", .float y => do
    takeNone function a
    roundedBy name y
  | "is_integer", .float y => do
    takeNone function a
    return .bool (match Number.read y with
      | .finite _ m => m.num % m.den == 0
      | _ => false)
  | "hex", .float y => do
    takeNone function a
    newText (Number.hexText y)
  | "as_integer_ratio", .float y => do
    takeNone function a
    ratioOf y
  | "as_integer_ratio", .int n => do
    takeNone function a
    newTuple [← newInt n, ← newInt 1]
  | "bit_length", .int n => do
    takeNone function a
    newInt (bitLength n.natAbs)
  | "bit_count", .int n => do
    takeNone function a
    newInt (bitCount n.natAbs)
  | "__getnewargs__", .int n => do
    takeNone function a
    newTuple [← newInt n]
  | "__getnewargs__", .float y => do
    takeNone function a
    newTuple [← newFloat y]
  | "conjugate", .int n | "__trunc__", .int n | "__floor__", .int n | "__ceil__", .int n => do
    takeNone function a
    if w.isExactly x .int then return x else newInt n
  | "conjugate", .float y => do
    takeNone function a
    if w.isExactly x .float then return x else newFloat y
  | _, _ => notProvided function

end StubClass
