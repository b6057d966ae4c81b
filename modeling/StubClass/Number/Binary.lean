set_option autoImplicit false

/-! # What a binary floating point number stands for

A number of 64 bits is not a number, an infinity, or a sign with a natural number times a power of
two. Everything that is decided about such numbers here (their digits, their equality with integers)
is decided in exact integer arithmetic on that reading. -/

namespace StubClass.Number

/-- A power of two. -/
def twoPow (n : Nat) : Nat :=
  Nat.pow 2 n

/-- A power of ten. -/
def tenPow (n : Nat) : Nat :=
  Nat.pow 10 n

theorem twoPow_pos (n : Nat) : 0 < twoPow n :=
  Nat.pow_pos (by decide)

theorem tenPow_pos (n : Nat) : 0 < tenPow n :=
  Nat.pow_pos (by decide)

/-- The absolute value `significand * 2 ^ exponent` of a finite number. -/
structure Magnitude where
  significand : Nat
  exponent : Int
  /-- The gap to the number below is half of the gap to the number above. -/
  narrowBelow : Bool

/-- What a number of 64 bits stands for. -/
inductive Reading where
  | notANumber
  | infinite (negative : Bool)
  | finite (negative : Bool) (magnitude : Magnitude)

/-- The reading of a number: a sign bit, eleven bits of exponent and 52 bits of fraction. -/
def read (x : Float) : Reading :=
  let bits : Nat := x.toBits.toNat
  let negative := bits / twoPow 63 == 1
  let exponent : Nat := bits / twoPow 52 % twoPow 11
  let fraction : Nat := bits % twoPow 52
  if exponent == 2047 then
    if fraction == 0 then .infinite negative else .notANumber
  else if exponent == 0 then .finite negative ⟨fraction, -1074, false⟩
  else
    .finite negative
      ⟨twoPow 52 + fraction, (exponent : Int) - 1075, fraction == 0 && exponent != 1⟩

/-- The numerator of the magnitude as a quotient of natural numbers. -/
def Magnitude.num (x : Magnitude) : Nat :=
  x.significand * twoPow x.exponent.toNat

/-- The denominator of the magnitude as a quotient of natural numbers. -/
def Magnitude.den (x : Magnitude) : Nat :=
  twoPow (-x.exponent).toNat

theorem Magnitude.den_pos (x : Magnitude) : 0 < x.den :=
  twoPow_pos _

end StubClass.Number
