import StubClass.Error
import StubClass.Number.Nearest
import StubClass.Number.Numeral
import StubClass.Value.Equality

set_option autoImplicit false

/-! # Values as numbers

The little arithmetic that random sources do on what they are asked: sums and differences with whole
numbers, comparison, and the whole number that a value stands for. Truth values are numbers, and a
sum with a floating point number is one. -/

namespace StubClass.Value

/-- The whole number that a value is. Truth values are numbers here. -/
def whole? : Value → Option Int
  | int n => some n
  | bool b => some (if b then 1 else 0)
  | _ => none

/-- The whole number that a value is, where nothing else will do. -/
def wholeNumber (v : Value) : Except Error Int :=
  match v.whole? with
  | some n => .ok n
  | none =>
    .error (.ordinary .badType ("'" ++ v.typeName
      ++ "' object cannot be interpreted as an integer"))

/-- The greatest number of parts that anything can have. -/
def maxSize : Int := 9223372036854775807

/-- The most parts that there is room for in one object. -/
def maxRoom : Nat := 20000000

/-- Whether a whole number can count parts, or number them from the end. -/
def isSize (n : Int) : Bool :=
  -maxSize - 1 ≤ n && n ≤ maxSize

theorem isSize_iff (n : Int) : isSize n = true ↔ -maxSize - 1 ≤ n ∧ n ≤ maxSize := by
  simp [isSize]

/-- A whole number that has to be a number of parts. -/
def asSize (n : Int) : Except Error Int :=
  if isSize n then .ok n
  else .error (.ordinary .overflow "Python int too large to convert to C ssize_t")

/-- The failure of an operator on two values. -/
def unsupported (operator : String) (x y : Value) : Error :=
  .ordinary .badType ("unsupported operand type(s) for " ++ operator ++ ": '" ++ x.typeName
    ++ "' and '" ++ y.typeName ++ "'")

/-- The floating point number nearest to a whole one. -/
def toFloat (n : Int) : Except Error Float :=
  let x := Number.nearestInt n
  if x.isInf then .error (.ordinary .overflow "int too large to convert to float") else .ok x

/-- The sum of a value and a whole number. -/
def plusWhole (x : Value) (n : Int) : Except Error Value :=
  match x with
  | float y => (toFloat n).map fun z => float (y + z)
  | bytes _ => .error (.ordinary .badType "can't concat int to bytes")
  | list _ | tuple _ =>
    .error (.ordinary .badType ("can only concatenate " ++ x.typeName ++ " (not \"int\") to "
      ++ x.typeName))
  | x =>
    match x.whole?, x.text? with
    | some m, _ => .ok (int (m + n))
    | none, some _ =>
      .error (.ordinary .badType "can only concatenate str (not \"int\") to str")
    | none, none => .error (unsupported "+" x (int n))

/-- The difference of two values. -/
def minus (x y : Value) : Except Error Value :=
  match x, y with
  | float a, float b => .ok (float (a - b))
  | float a, y =>
    match y.whole? with
    | some n => (toFloat n).map fun b => float (a - b)
    | none => .error (unsupported "-" x y)
  | x, float b =>
    match x.whole? with
    | some m => (toFloat m).map fun a => float (a - b)
    | none => .error (unsupported "-" x y)
  | x, y =>
    match x.whole?, y.whole? with
    | some m, some n => .ok (int (m - n))
    | _, _ => .error (unsupported "-" x y)

end StubClass.Value

namespace StubClass.Numeric

/-- Whether a magnitude is below another one. What is no number is below nothing. -/
def below : Numeric → Numeric → Bool
  | notANumber, _ | _, notANumber => false
  | infinite a, infinite b => a && !b
  | infinite a, finite _ => a
  | finite _, infinite b => !b
  | finite x, finite y => decide (x < y)

end StubClass.Numeric

namespace StubClass.Value

/-- Whether a number is below a value. -/
def isBelow (x y : Value) : Except Error Bool :=
  match x.numeric?, y.numeric? with
  | some a, some b => .ok (a.below b)
  | _, _ =>
    .error (.ordinary .badType ("'<' not supported between instances of '" ++ x.typeName
      ++ "' and '" ++ y.typeName ++ "'"))

theorem isBelow_int (m n : Int) : isBelow (.int m) (.int n) = .ok (decide (m < n)) := by
  have hbelow : Dyadic.ofIntWithPrec m 0 < Dyadic.ofIntWithPrec n 0 ↔ m < n := by
    rw [← Dyadic.toRat_lt_toRat_iff, Dyadic.toRat_ofIntWithPrec_eq_mul_two_pow,
      Dyadic.toRat_ofIntWithPrec_eq_mul_two_pow]
    simp only [Int.neg_zero, Rat.zpow_zero, Rat.mul_one, Rat.intCast_lt_intCast]
  show Except.ok (decide (Dyadic.ofIntWithPrec m 0 < Dyadic.ofIntWithPrec n 0)) = _
  simp [hbelow]

/-- The whole number that a floating point number has before its point. -/
def truncated (x : Float) : Except Error Int :=
  match Number.read x with
  | .notANumber => .error (.ordinary .badValue "cannot convert float NaN to integer")
  | .infinite _ => .error (.ordinary .overflow "cannot convert float infinity to integer")
  | .finite negative m =>
    let n : Int := (m.num / m.den : Nat)
    .ok (if negative then -n else n)

/-- The most characters of a numeral that are shown when it is none. -/
def shownNumeral : Nat := 200

/-- The whole number that a value is made into: texts and bytes are read, and a floating point
number loses what is behind its point. -/
def integerOf (v : Value) : Except Error Int :=
  match v with
  | float x => truncated x
  | bytes bs =>
    match Number.readInteger? (String.ofList (bs.map fun b => Char.ofNat b.toNat)) with
    | some n => .ok n
    | none => .error (unread v)
  | v =>
    match v.whole?, v.text? with
    | some n, _ => .ok n
    | none, some text =>
      match Number.readInteger? text with
      | some n => .ok n
      | none => .error (unread v)
    | none, none =>
      .error (.ordinary .badType ("int() argument must be a string, a bytes-like object or a real "
        ++ "number, not '" ++ v.typeName ++ "'"))
where
  /-- The failure to read a numeral. -/
  unread (v : Value) : Error :=
    .ordinary .badValue ("invalid literal for int() with base 10: "
      ++ String.ofList (v.chars.take shownNumeral))

end StubClass.Value
