import StubClass.Number.Binary

set_option autoImplicit false

/-! # The shortest decimal of a floating point number

A floating point number is written with the fewest digits that still read back as it. The reals that
round to it form an interval, which reaches half way to each neighbour and holds its ends when the
significand is even. For one, two, ... seventeen digits the two decimals around the number are tried
against that interval; the first hit wins, of two hits the nearer, and of two equally near ones the
even. Comparisons are products of natural numbers, so nothing is rounded on the way. -/

namespace StubClass.Number

/-- The decimal `digits * 10 ^ exponent`. -/
structure Decimal where
  digits : Nat
  exponent : Int

/-! ## The interval -/

/-- Compares `a * 10 ^ i` with `b * 2 ^ j`. -/
def compareScaled (a : Nat) (i : Int) (b : Nat) (j : Int) : Ordering :=
  compare (a * tenPow i.toNat * twoPow (-j).toNat) (b * twoPow j.toNat * tenPow (-i).toNat)

/-- Whether the decimal lies in the interval of the reals that round to the number. -/
def Magnitude.roundsFrom (x : Magnitude) (d : Decimal) : Bool :=
  let below := 4 * x.significand - if x.narrowBelow then 1 else 2
  let above := 4 * x.significand + 2
  let closed := x.significand % 2 == 0
  let low := compareScaled d.digits d.exponent below (x.exponent - 2)
  let high := compareScaled d.digits d.exponent above (x.exponent - 2)
  (low == .gt || closed && low == .eq) && (high == .lt || closed && high == .eq)

/-! ## The search -/

/-- How many decimal digits a natural number has. -/
def digitCount (n : Nat) : Nat :=
  (Nat.toDigits 10 n).length

/-- The least power of ten, by its exponent, above a positive number. -/
def Magnitude.scale (x : Magnitude) : Int :=
  if x.den ≤ x.num then digitCount (x.num / x.den)
  else 1 - (digitCount ((x.den - 1) / x.num) : Int)

/-- The last decimal of `count` digits that is not above the number. -/
def Magnitude.truncate (x : Magnitude) (count : Nat) : Decimal :=
  let exponent := x.scale - count
  ⟨x.num * tenPow (-exponent).toNat / (x.den * tenPow exponent.toNat), exponent⟩

/-- Whether the decimal after `low` is nearer to the number than `low`, or as near and even. -/
def Magnitude.prefersAbove (x : Magnitude) (low : Decimal) : Bool :=
  match compareScaled (2 * low.digits + 1) low.exponent (2 * x.significand) x.exponent with
  | .lt => true
  | .gt => false
  | .eq => low.digits % 2 == 1

/-- The decimal of `count` digits that reads back as the number, if there is one. -/
def Magnitude.decimalOf? (x : Magnitude) (count : Nat) : Option Decimal :=
  let low := x.truncate count
  let high : Decimal := ⟨low.digits + 1, low.exponent⟩
  match x.roundsFrom low, x.roundsFrom high with
  | true, true => some (if x.prefersAbove low then high else low)
  | true, false => some low
  | false, true => some high
  | false, false => none

/-- Moves the trailing zeros of the digits into the exponent. -/
def Decimal.strip (d : Decimal) : Decimal :=
  let cs := (Nat.toDigits 10 d.digits).reverse
  let zeros := (cs.takeWhile (· == '0')).length
  ⟨d.digits / tenPow zeros, d.exponent + zeros⟩

/-- The shortest decimal that reads back as a positive number. Seventeen digits are enough for every
number of 64 bits; the exact value stands behind them. -/
def Magnitude.shortest (x : Magnitude) : Decimal :=
  let exact : Decimal :=
    ⟨x.num * tenPow (-x.exponent).toNat / x.den, -((-x.exponent).toNat : Int)⟩
  (((List.range 17).findSome? fun i => x.decimalOf? (i + 1)).getD exact).strip

/-- A decimal that the search returns lies in the interval of the number. -/
theorem Magnitude.decimalOf?_roundsFrom {x : Magnitude} {count : Nat} {d : Decimal}
    (h : x.decimalOf? count = some d) : x.roundsFrom d = true := by
  unfold Magnitude.decimalOf? at h
  simp only at h
  split at h
  case h_1 hl hh =>
    split at h
    · cases h; exact hh
    · cases h; exact hl
  case h_2 hl _ => cases h; exact hl
  case h_3 _ hh => cases h; exact hh
  case h_4 => cases h

end StubClass.Number
