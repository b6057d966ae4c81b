import StubClass.Number.Binary

set_option autoImplicit false

/-! # The floating point number nearest to a quotient

A quotient of natural numbers is rounded once, on the grid of the numbers of its size: a significand
of 53 bits over a power of two that is not below the least one. A half goes to the even neighbour.
What is computed here is exact up to that one rounding, so sums of powers of ten, remainders and
quotients of large integers come out as the nearest number whatever their size. -/

namespace StubClass.Number

/-- The quotient rounded to a whole number, a half to the even neighbour. -/
def roundEven (num den : Nat) : Nat :=
  let q := num / den
  match compare (2 * (num % den)) den with
  | .lt => q
  | .gt => q + 1
  | .eq => if q % 2 == 0 then q else q + 1

/-- A rounded quotient is at most half a unit away from the quotient. -/
theorem roundEven_near (num : Nat) {den : Nat} (pos : 0 < den) :
    2 * (den * roundEven num den) ≤ 2 * num + den ∧
      2 * num ≤ 2 * (den * roundEven num den) + den := by
  have split_num : den * (num / den) + num % den = num := Nat.div_add_mod num den
  have below : num % den < den := Nat.mod_lt num pos
  have next : den * (num / den + 1) = den * (num / den) + den := Nat.mul_succ den (num / den)
  unfold roundEven
  simp only
  split
  case h_1 h => have := Nat.compare_eq_lt.1 h; omega
  case h_2 h => have := Nat.compare_eq_gt.1 h; omega
  case h_3 h =>
    have := Nat.compare_eq_eq.1 h
    split <;> omega

/-- The exponent of the least positive number. -/
def leastExponent : Int := -1074

/-- A quotient in units of a power of two. -/
def scaledBy (e : Int) (num den : Nat) : Nat × Nat :=
  if 0 ≤ e then (num, den * twoPow e.toNat) else (num * twoPow (-e).toNat, den)

/-- The exponent of the grid that a positive quotient is rounded on. -/
def gridExponent (num den : Nat) : Int :=
  let e : Int := (num.log2 : Int) - den.log2 - 53
  let (n, d) := scaledBy e num den
  max leastExponent (if n / d < twoPow 53 then e else e + 1)

/-- The number nearest to a quotient; what is above all numbers is infinite. -/
def nearest (num den : Nat) : Float :=
  if num == 0 || den == 0 then 0.0
  else
    let e := gridExponent num den
    let (n, d) := scaledBy e num den
    (roundEven n d).toUInt64.toFloat.scaleB e

/-- The number nearest to digits with a power of ten. Beyond a few hundred places there is nothing
but zero and infinity. -/
def nearestDecimal (digits : Nat) (exponent : Int) : Float :=
  if digits == 0 then 0.0
  else
    let lead : Int := (Nat.toDigits 10 digits).length + exponent
    if lead < -400 then 0.0
    else if 400 < lead then 1.0 / 0.0
    else if 0 ≤ exponent then nearest (digits * tenPow exponent.toNat) 1
    else nearest digits (tenPow (-exponent).toNat)

/-- A number with a sign. -/
def withSign (negative : Bool) (x : Float) : Float :=
  if negative then -x else x

/-- The number nearest to an integer. -/
def nearestInt (n : Int) : Float :=
  withSign (n < 0) (nearest n.natAbs 1)

/-- What remains of a number after it is divided by another one as often as possible, with the sign
of the first; it is exact. A division by zero or of an infinity leaves no number, and one by an
infinity leaves all. -/
def remainder (x y : Float) : Float :=
  match read x, read y with
  | .finite negative m, .finite _ k =>
    if k.significand == 0 then 0.0 / 0.0
    else
      let e := min m.exponent k.exponent
      let units (a : Magnitude) : Nat := a.significand * twoPow (a.exponent - e).toNat
      let r := units m % units k
      let (n, d) := if 0 ≤ e then (r * twoPow e.toNat, 1) else (r, twoPow (-e).toNat)
      withSign negative (nearest n d)
  | .finite _ _, .infinite _ => x
  | _, _ => 0.0 / 0.0

end StubClass.Number
