import Mathlib.Algebra.Order.Field.Power
import Mathlib.Data.List.TakeWhile
import Mathlib.Data.Rat.Cast.Order
import Mathlib.Tactic.FieldSimp
import Mathlib.Tactic.Linarith
import Mathlib.Tactic.Positivity
import Mathlib.Tactic.Ring
import StubClass.Number.Shortest

set_option autoImplicit false

/-! # The shortest decimal rounds to its number

A decimal and a magnitude are compared as rational numbers (`compareScaled_eq_compare`), so the
decimals that the search tries are measured against the interval of the rationals that round to the
number (`roundsFrom_value`). What is found lies in it, with its trailing zeros or without
(`Magnitude.shortest_roundsFrom`). -/

namespace StubClass.Number

/-! ## Values -/

/-- The value of a decimal. -/
def Decimal.value (d : Decimal) : ℚ :=
  d.digits * 10 ^ d.exponent

namespace Magnitude

/-- The value of a magnitude. -/
def value (x : Magnitude) : ℚ :=
  x.significand * 2 ^ x.exponent

/-- Half of the gap to the number above. -/
def halfGap (x : Magnitude) : ℚ :=
  2 ^ x.exponent / 2

/-- Half of the gap to the number below. -/
def halfGapBelow (x : Magnitude) : ℚ :=
  if x.narrowBelow then x.halfGap / 2 else x.halfGap

/-- Whether a rational rounds to the number: it is less than half a gap away, or just half of one
when the significand is even. -/
def RoundsFrom (x : Magnitude) (q : ℚ) : Prop :=
  (x.value - x.halfGapBelow < q ∨ x.significand % 2 = 0 ∧ q = x.value - x.halfGapBelow) ∧
    (q < x.value + x.halfGap ∨ x.significand % 2 = 0 ∧ q = x.value + x.halfGap)

theorem halfGap_pos (x : Magnitude) : 0 < x.halfGap := by
  unfold halfGap
  positivity

theorem halfGapBelow_pos (x : Magnitude) : 0 < x.halfGapBelow := by
  have h := x.halfGap_pos
  unfold halfGapBelow
  split <;> linarith

theorem roundsFrom_self (x : Magnitude) : x.RoundsFrom x.value :=
  ⟨.inl (sub_lt_self _ x.halfGapBelow_pos), .inl (lt_add_of_pos_right _ x.halfGap_pos)⟩

end Magnitude

/-! ## Comparing -/

theorem zpow_eq_div {b : ℚ} (hb : b ≠ 0) (e : Int) : b ^ e = b ^ e.toNat / b ^ (-e).toNat := by
  rw [← zpow_natCast, ← zpow_natCast, ← zpow_sub₀ hb]
  congr 1
  omega

theorem compare_mul_right {a b c : ℚ} (hc : 0 < c) : compare (a * c) (b * c) = compare a b := by
  rcases lt_trichotomy a b with h | rfl | h
  · rw [compare_lt_iff_lt.2 h, compare_lt_iff_lt.2 (mul_lt_mul_of_pos_right h hc)]
  · simp
  · rw [compare_gt_iff_gt.2 h, compare_gt_iff_gt.2 (mul_lt_mul_of_pos_right h hc)]

theorem compare_natCast (m n : Nat) : compare (m : ℚ) (n : ℚ) = compare m n := by
  rcases lt_trichotomy m n with h | rfl | h
  · rw [compare_lt_iff_lt.2 h, compare_lt_iff_lt.2 (Nat.cast_lt.2 h)]
  · simp
  · rw [compare_gt_iff_gt.2 h, compare_gt_iff_gt.2 (Nat.cast_lt.2 h)]

/-- Products of natural numbers are compared as the rationals are. -/
theorem compareScaled_eq_compare (a : Nat) (i : Int) (b : Nat) (j : Int) :
    compareScaled a i b j = compare ((a : ℚ) * 10 ^ i) (b * 2 ^ j) := by
  have hscale : (0 : ℚ) < 10 ^ (-i).toNat * 2 ^ (-j).toNat := by positivity
  rw [← compare_mul_right hscale, compareScaled, ← compare_natCast, zpow_eq_div (by norm_num) i,
    zpow_eq_div (by norm_num) j]
  congr 1
  · simp only [twoPow, tenPow, Nat.pow_eq, Nat.cast_mul, Nat.cast_pow, Nat.cast_ofNat]
    field_simp
  · simp only [twoPow, tenPow, Nat.pow_eq, Nat.cast_mul, Nat.cast_pow, Nat.cast_ofNat]
    field_simp

namespace Magnitude

theorem quarters (x : Magnitude) (n : Nat) :
    (n : ℚ) * 2 ^ (x.exponent - 2) = n * x.halfGap / 2 := by
  rw [halfGap, zpow_sub₀ (by norm_num)]
  ring

/-- What the search takes for the interval of a positive number is the interval. -/
theorem roundsFrom_value {x : Magnitude} (hx : x.significand ≠ 0) {d : Decimal}
    (h : x.roundsFrom d = true) : x.RoundsFrom d.value := by
  have hlow : ((4 * x.significand - if x.narrowBelow then 1 else 2 : Nat) : ℚ) *
      2 ^ (x.exponent - 2) = x.value - x.halfGapBelow := by
    rw [quarters, Nat.cast_sub (by split <;> omega), value, halfGapBelow]
    unfold halfGap
    split <;> push_cast <;> ring
  have hhigh : ((4 * x.significand + 2 : Nat) : ℚ) * 2 ^ (x.exponent - 2) =
      x.value + x.halfGap := by
    rw [quarters, value, halfGap]
    push_cast
    ring
  simp only [roundsFrom, compareScaled_eq_compare, hlow, hhigh, Bool.and_eq_true, Bool.or_eq_true,
    beq_iff_eq, compare_gt_iff_gt, compare_lt_iff_lt, compare_eq_iff_eq] at h
  exact ⟨h.1, h.2⟩

end Magnitude

/-! ## What is found -/

/-- Without its trailing zeros a decimal has the same value. -/
theorem Decimal.value_strip (d : Decimal) : d.strip.value = d.value := by
  obtain ⟨front, zeros, hdigits, hzeros⟩ : ∃ front zeros,
      Nat.toDigits 10 d.digits = front ++ List.replicate zeros '0' ∧
        ((Nat.toDigits 10 d.digits).reverse.takeWhile (· == '0')).length = zeros := by
    refine ⟨((Nat.toDigits 10 d.digits).reverse.dropWhile (· == '0')).reverse, _, ?_, rfl⟩
    have htail : (Nat.toDigits 10 d.digits).reverse.takeWhile (· == '0') =
        List.replicate ((Nat.toDigits 10 d.digits).reverse.takeWhile (· == '0')).length '0' :=
      List.eq_replicate_of_mem fun c hc => by simpa using List.mem_takeWhile_imp hc
    rw [← List.reverse_inj, List.reverse_append, List.reverse_reverse, List.reverse_replicate,
      ← htail, List.takeWhile_append_dropWhile]
  have hvalue : d.digits = tenPow zeros * Nat.ofDigitChars 10 front 0 := by
    rw [tenPow, Nat.pow_eq, ← Nat.ofDigitChars_replicate_zero (b := 10), ← Nat.ofDigitChars_append,
      ← hdigits, Nat.ofDigitChars_ten_toDigits]
  have hstrip : d.strip = ⟨Nat.ofDigitChars 10 front 0, d.exponent + zeros⟩ := by
    rw [strip, hzeros, hvalue, Nat.mul_div_cancel_left _ (tenPow_pos _)]
  rw [hstrip, value, value, hvalue, zpow_add₀ (by norm_num), zpow_natCast]
  simp only [tenPow, Nat.pow_eq, Nat.cast_mul, Nat.cast_pow, Nat.cast_ofNat]
  ring

namespace Magnitude

/-- The decimal behind the search has the value of the number. -/
theorem value_exact (x : Magnitude) :
    Decimal.value ⟨x.num * tenPow (-x.exponent).toNat / x.den, -((-x.exponent).toNat : Int)⟩ =
      x.value := by
  have hten : tenPow (-x.exponent).toNat = x.den * 5 ^ (-x.exponent).toNat := by
    rw [den, tenPow, twoPow, Nat.pow_eq, Nat.pow_eq, ← Nat.mul_pow]
  rw [hten, Nat.mul_left_comm, Nat.mul_div_cancel_left _ x.den_pos, Decimal.value, value, num,
    zpow_eq_div (by norm_num) x.exponent, zpow_neg, zpow_natCast]
  have hpow : (10 : ℚ) ^ (-x.exponent).toNat =
      2 ^ (-x.exponent).toNat * 5 ^ (-x.exponent).toNat := by
    rw [← mul_pow]
    norm_num
  simp only [twoPow, Nat.pow_eq, Nat.cast_mul, Nat.cast_pow, Nat.cast_ofNat, hpow]
  field_simp

/-- **The shortest decimal of a number rounds to it.** -/
theorem shortest_roundsFrom {x : Magnitude} (hx : x.significand ≠ 0) :
    x.RoundsFrom x.shortest.value := by
  rw [shortest, Decimal.value_strip]
  cases hfound : (List.range 17).findSome? fun i => x.decimalOf? (i + 1) with
  | some d =>
      obtain ⟨i, -, hi⟩ := List.exists_of_findSome?_eq_some hfound
      exact roundsFrom_value hx (decimalOf?_roundsFrom hi)
  | none =>
      rw [Option.getD_none, value_exact]
      exact x.roundsFrom_self

end Magnitude

end StubClass.Number
