import StubClass.Number.FloatText
import StubClass.Proofs.Number.Shortest

set_option autoImplicit false

/-! # Floating point numbers in writing

A finite number is written as digits without a needless zero in front, maybe with digits behind a
point, maybe with an exponent, and with a minus sign if it has one; and the decimal that this is
rounds to the number (`floatChars_finite`). The first digit is no zero because the decimal that is
found is none: it rounds to a number that is none (`Magnitude.shortest_digits_ne_zero`). In fixed
notation the number of places is given, and the decimal is the nearest one (`fixedText_finite`). -/

namespace StubClass.Number

/-! ## The form -/

/-- Digits, at least one. -/
def AreDigits (cs : List Char) : Prop :=
  cs ≠ [] ∧ ∀ c ∈ cs, c.isDigit = true

/-- Digits before the point: a zero only by itself. -/
inductive IsWholePart : List Char → Prop where
  | zero : IsWholePart ['0']
  | digits {c : Char} {cs : List Char} (hzero : c ≠ '0') (h : AreDigits (c :: cs)) :
      IsWholePart (c :: cs)

/-- What is behind the digits before the point, if anything, with the digits in it. -/
inductive IsFraction : List Char → List Char → Prop where
  | none : IsFraction [] []
  | places {cs : List Char} (h : AreDigits cs) : IsFraction ('.' :: cs) cs

/-- What is at the end, if anything, with the power of ten that it stands for. -/
inductive IsExponent : List Char → Int → Prop where
  | none : IsExponent [] 0
  | plus {cs : List Char} (h : AreDigits cs) :
      IsExponent ('e' :: '+' :: cs) (Nat.ofDigitChars 10 cs 0)
  | minus {cs : List Char} (h : AreDigits cs) :
      IsExponent ('e' :: '-' :: cs) (-Nat.ofDigitChars 10 cs 0)

/-- A decimal in writing, without a sign, with its value. -/
def IsDecimalText (cs : List Char) (q : ℚ) : Prop :=
  ∃ whole fraction places exponent e, cs = whole ++ fraction ++ exponent ∧ IsWholePart whole ∧
    IsFraction fraction places ∧ IsExponent exponent e ∧
    q = Nat.ofDigitChars 10 (whole ++ places) 0 * 10 ^ (e - places.length)

/-! ## Digits -/

theorem areDigits_toDigits (n : Nat) : AreDigits (Nat.toDigits 10 n) :=
  ⟨Nat.toDigits_ne_nil, fun _ => Nat.isDigit_of_mem_toDigits (by decide) (by decide)⟩

theorem AreDigits.append {cs ds : List Char} (h : AreDigits cs)
    (hds : ∀ c ∈ ds, c.isDigit = true) : AreDigits (cs ++ ds) := by
  refine ⟨by simp [h.1], fun c hc => ?_⟩
  rcases List.mem_append.1 hc with hc | hc
  · exact h.2 c hc
  · exact hds c hc

theorem isDigit_of_mem_replicate {n : Nat} : ∀ c ∈ List.replicate n '0', c.isDigit = true := by
  intro c hc
  rw [List.eq_of_mem_replicate hc]
  rfl

theorem toDigits_first_ne_zero {n : Nat} (h : n ≠ 0) :
    ∃ c cs, Nat.toDigits 10 n = c :: cs ∧ c ≠ '0' := by
  induction n using Nat.strongRecOn with
  | ind n ih =>
      rw [Nat.toDigits_eq_if (by decide)]
      split
      case isTrue hlt =>
        refine ⟨_, [], rfl, ?_⟩
        have hdigit : ∀ d < 10, d ≠ 0 → Nat.digitChar d ≠ '0' := by decide
        exact hdigit n hlt h
      case isFalse hge =>
        obtain ⟨c, cs, hcs, hc⟩ := ih (n / 10) (by omega) (by omega)
        exact ⟨c, cs ++ [(n % 10).digitChar], by rw [hcs]; rfl, hc⟩

/-! ## The decimal that is found -/

theorem compareScaled_zero {b : Nat} (h : 0 < b) (i j : Int) : compareScaled 0 i b j = .lt := by
  rw [compareScaled, Nat.zero_mul, Nat.zero_mul]
  exact Nat.compare_eq_lt.2 (Nat.mul_pos (Nat.mul_pos h (twoPow_pos _)) (tenPow_pos _))

/-- What rounds to a positive number is no zero. -/
theorem Magnitude.digits_ne_zero_of_roundsFrom {x : Magnitude} (hx : x.significand ≠ 0)
    {d : Decimal} (h : x.roundsFrom d = true) : d.digits ≠ 0 := by
  intro hd
  have hbelow : 0 < 4 * x.significand - if x.narrowBelow then 1 else 2 := by
    split <;> omega
  simp [Magnitude.roundsFrom, hd, compareScaled_zero hbelow] at h

theorem length_takeWhile_append_le {p : Char → Bool} {c : Char} (hc : p c = false)
    (cs : List Char) : ((cs ++ [c]).takeWhile p).length ≤ cs.length := by
  induction cs with
  | nil => simp [hc]
  | cons d cs ih =>
      rw [List.cons_append, List.takeWhile_cons]
      split
      · exact Nat.succ_le_succ ih
      · exact Nat.zero_le _

/-- Without its trailing zeros a positive number is positive: its first digit is no zero. -/
theorem Decimal.strip_digits_ne_zero {d : Decimal} (h : d.digits ≠ 0) : d.strip.digits ≠ 0 := by
  obtain ⟨c, cs, hcs, hc⟩ := toDigits_first_ne_zero h
  have hzeros : ((Nat.toDigits 10 d.digits).reverse.takeWhile (· == '0')).length ≤ cs.length := by
    have hreverse := length_takeWhile_append_le (p := (· == '0')) (by simpa using hc) cs.reverse
    rw [List.length_reverse] at hreverse
    rwa [hcs, List.reverse_cons]
  have hpow : tenPow cs.length ≤ d.digits := by
    rw [tenPow, ← Nat.not_lt]
    intro hlt
    rcases Nat.eq_zero_or_pos cs.length with hzero | hpos
    · rw [hzero] at hlt
      exact h (Nat.lt_one_iff.1 hlt)
    · have hlength := (Nat.length_toDigits_le_iff (b := 10) (by decide) hpos).2 hlt
      rw [hcs, List.length_cons] at hlength
      exact absurd hlength (by omega)
  have hle := (Nat.pow_le_pow_right (by decide) hzeros).trans hpow
  exact (Nat.div_pos hle (tenPow_pos _)).ne'

theorem Magnitude.shortest_digits_ne_zero {x : Magnitude} (hx : x.significand ≠ 0) :
    x.shortest.digits ≠ 0 := by
  refine Decimal.strip_digits_ne_zero ?_
  cases hfound : (List.range 17).findSome? fun i => x.decimalOf? (i + 1) with
  | some d =>
      obtain ⟨i, -, hi⟩ := List.exists_of_findSome?_eq_some hfound
      exact digits_ne_zero_of_roundsFrom hx (decimalOf?_roundsFrom hi)
  | none =>
      have hpow : twoPow (-x.exponent).toNat ≤ tenPow (-x.exponent).toNat :=
        Nat.pow_le_pow_left (by decide) _
      have hnum : 0 < x.num := Nat.mul_pos (Nat.pos_of_ne_zero hx) (twoPow_pos _)
      exact (Nat.div_pos (hpow.trans (Nat.le_mul_of_pos_left _ hnum)) x.den_pos).ne'

/-! ## Writing it -/

theorem exponentChars_form (e : Int) : IsExponent ('e' :: exponentChars e) e := by
  obtain ⟨cs, hcs, hdigits, hvalue⟩ : ∃ cs, (let cs := Nat.toDigits 10 e.natAbs
      if cs.length < 2 then '0' :: cs else cs) = cs ∧ AreDigits cs ∧
        Nat.ofDigitChars 10 cs 0 = e.natAbs := by
    refine ⟨_, rfl, ?_⟩
    have h := areDigits_toDigits e.natAbs
    simp only
    split
    · refine ⟨⟨by simp, List.forall_mem_cons.2 ⟨rfl, h.2⟩⟩, ?_⟩
      rw [Nat.ofDigitChars_cons]
      exact Nat.ofDigitChars_ten_toDigits
    · exact ⟨h, Nat.ofDigitChars_ten_toDigits⟩
  simp only at hcs
  rw [exponentChars]
  by_cases he : e < 0
  · rw [if_pos he, hcs]
    have hminus := IsExponent.minus hdigits
    rwa [hvalue, show -(e.natAbs : Int) = e by omega] at hminus
  · rw [if_neg he, hcs]
    have hplus := IsExponent.plus hdigits
    rwa [hvalue, show (e.natAbs : Int) = e by omega] at hplus

/-- With a point among them, digits stay digits on both sides of it. -/
theorem pointed_form {places : Nat} (hplaces : places ≠ 0) (n : Nat) :
    ∃ whole ds, pointed places (Nat.toDigits 10 n) = whole ++ '.' :: ds ∧ IsWholePart whole ∧
      AreDigits ds ∧ ds.length = places ∧ Nat.ofDigitChars 10 (whole ++ ds) 0 = n := by
  obtain ⟨padded, hpadded⟩ : ∃ padded,
      List.replicate (places + 1 - (Nat.toDigits 10 n).length) '0' ++ Nat.toDigits 10 n = padded :=
    ⟨_, rfl⟩
  have hvalue : Nat.ofDigitChars 10 padded 0 = n := by
    rw [← hpadded, Nat.ofDigitChars_append, Nat.ofDigitChars_replicate_zero, Nat.mul_zero,
      Nat.ofDigitChars_ten_toDigits]
  have hdigits : ∀ c ∈ padded, c.isDigit = true := by
    rw [← hpadded]
    exact List.forall_mem_append.2 ⟨isDigit_of_mem_replicate, (areDigits_toDigits n).2⟩
  have hlength : places < padded.length := by
    rw [← hpadded, List.length_append, List.length_replicate]
    omega
  have hdrop : (padded.drop (padded.length - places)).length = places := by
    rw [List.length_drop]
    omega
  refine ⟨padded.take (padded.length - places), padded.drop (padded.length - places), ?_, ?_,
    ⟨?_, fun c hc => hdigits c (List.mem_of_mem_drop hc)⟩, hdrop, ?_⟩
  · simp only [pointed, hpadded]
  · -- the digits reach over the point and start with no zero, or there is one zero before it
    rcases Nat.lt_or_ge places (Nat.toDigits 10 n).length with hlong | hshort
    · have hn : n ≠ 0 := by
        rintro rfl
        rw [Nat.toDigits_zero] at hlong
        exact hplaces (Nat.lt_one_iff.1 hlong)
      obtain ⟨c, cs, hcs, hc⟩ := toDigits_first_ne_zero hn
      rw [Nat.sub_eq_zero_of_le hlong, List.replicate_zero, List.nil_append, hcs] at hpadded
      obtain ⟨k, hk⟩ : ∃ k, padded.length - places = k + 1 :=
        Nat.exists_eq_add_one.2 (Nat.sub_pos_of_lt hlength)
      rw [hk, ← hpadded, List.take_succ_cons]
      refine .digits hc ⟨by simp, fun d hd => hdigits d ?_⟩
      rw [← hpadded]
      exact List.cons_subset_cons _ (List.take_subset _ _) hd
    · obtain ⟨k, hk⟩ : ∃ k, places + 1 - (Nat.toDigits 10 n).length = k + 1 :=
        Nat.exists_eq_add_one.2 (Nat.sub_pos_of_lt (Nat.lt_succ_of_le hshort))
      have hone : padded.length - places = 1 := by
        rw [← hpadded, List.length_append, List.length_replicate]
        omega
      rw [hone, ← hpadded, hk, List.replicate_succ, List.cons_append, List.take_succ_cons,
        List.take_zero]
      exact .zero
  · intro hnil
    rw [hnil] at hdrop
    exact hplaces hdrop.symm
  · rw [List.take_append_drop, hvalue]

theorem Decimal.chars_form {d : Decimal} (h : d.digits ≠ 0) : IsDecimalText d.chars d.value := by
  obtain ⟨c, cs, hcs, hc⟩ := toDigits_first_ne_zero h
  have hdigits := areDigits_toDigits d.digits
  have hvalue : Nat.ofDigitChars 10 (Nat.toDigits 10 d.digits) 0 = d.digits :=
    Nat.ofDigitChars_ten_toDigits
  unfold Decimal.chars
  simp only
  split
  case isTrue =>
    split
    case isTrue hexponent =>
      obtain ⟨n, hn⟩ := Int.eq_ofNat_of_zero_le hexponent
      have hwhole := hdigits.append (isDigit_of_mem_replicate (n := n))
      refine ⟨Nat.toDigits 10 d.digits ++ List.replicate n '0', ['.', '0'], ['0'], [], 0,
        by simp [hn], ?_, .places ⟨by simp, by simp⟩, .none, ?_⟩
      · rw [hcs] at hwhole ⊢
        exact .digits hc hwhole
      · rw [List.append_assoc, ← List.replicate_succ', Nat.ofDigitChars_append, hvalue,
          Nat.ofDigitChars_replicate_zero, value, hn]
        push_cast
        rw [zpow_sub₀ (by norm_num), zpow_zero, zpow_natCast, pow_succ]
        simp only [List.length_singleton, Nat.cast_one, zpow_one]
        ring
    case isFalse hneg =>
      obtain ⟨whole, ds, hpointed, hwhole, hds, hlength, hn⟩ :=
        pointed_form (by omega : (-d.exponent).toNat ≠ 0) d.digits
      refine ⟨whole, '.' :: ds, ds, [], 0, by rw [hpointed, List.append_nil], hwhole, .places hds,
        .none, ?_⟩
      rw [hn, hlength, value, show (0 : Int) - (-d.exponent).toNat = d.exponent by omega]
  case isFalse =>
    have hwhole : IsWholePart [c] :=
      .digits hc ⟨by simp, by simpa using hdigits.2 c (by simp [hcs])⟩
    have hexponent := exponentChars_form (d.exponent + (Nat.toDigits 10 d.digits).length - 1)
    rw [hcs] at hdigits hexponent hvalue ⊢
    have hlead : d.exponent + (c :: cs).length - 1 - cs.length = d.exponent := by
      rw [List.length_cons]
      omega
    have hfraction : IsFraction (if cs.isEmpty then [] else '.' :: cs) cs := by
      cases cs with
      | nil => exact .none
      | cons d ds =>
          exact .places ⟨by simp, fun e he => hdigits.2 e (List.mem_cons_of_mem _ he)⟩
    exact ⟨[c], _, cs, _, _, by simp, hwhole, hfraction, hexponent, by
      rw [hlead, List.singleton_append, hvalue, value]⟩

/-- A finite number is written as a decimal that rounds to it, with a sign. -/
theorem floatChars_finite {x : Float} {negative : Bool} {m : Magnitude}
    (h : read x = .finite negative m) :
    ∃ cs q, floatChars x = signed negative cs ∧ IsDecimalText cs q ∧ m.RoundsFrom q := by
  rw [floatChars, h]
  simp only
  split
  case isTrue hzero =>
    have hvalue : m.value = 0 := by
      rw [Magnitude.value, beq_iff_eq.1 hzero, Nat.cast_zero, zero_mul]
    refine ⟨_, 0, rfl, ⟨['0'], ['.', '0'], ['0'], [], 0, rfl, .zero, .places ⟨by simp, by simp⟩,
      .none, ?_⟩, ?_⟩
    · rw [show Nat.ofDigitChars 10 (['0'] ++ ['0']) 0 = 0 from rfl, Nat.cast_zero, zero_mul]
    · rw [← hvalue]
      exact m.roundsFrom_self
  case isFalse hm =>
    have hm : m.significand ≠ 0 := by simpa using hm
    exact ⟨_, _, rfl, Decimal.chars_form (Magnitude.shortest_digits_ne_zero hm),
      Magnitude.shortest_roundsFrom hm⟩

/-! ## The fixed notation -/

/-- A rounded quotient that is half a unit away from the quotient is even. -/
theorem roundEven_even {num den : Nat} (hden : 0 < den)
    (h : 2 * num = 2 * (den * roundEven num den) + den ∨
      2 * (den * roundEven num den) = 2 * num + den) : roundEven num den % 2 = 0 := by
  have hsplit : den * (num / den) + num % den = num := Nat.div_add_mod num den
  have hlt : num % den < den := Nat.mod_lt num hden
  have hnext : den * (num / den + 1) = den * (num / den) + den := Nat.mul_succ den (num / den)
  revert h
  unfold roundEven
  simp only
  split
  case h_1 hless =>
    have := Nat.compare_eq_lt.1 hless
    omega
  case h_2 hmore =>
    have := Nat.compare_eq_gt.1 hmore
    omega
  case h_3 =>
    intro
    split
    case isTrue heven => exact beq_iff_eq.1 heven
    case isFalse hodd =>
      rw [beq_iff_eq] at hodd
      omega

/-- Whether a whole number is nearest to a rational, or as near as another one and even. -/
def IsNearest (n : Nat) (q : ℚ) : Prop :=
  2 * |q - n| < 1 ∨ 2 * |q - n| = 1 ∧ n % 2 = 0

theorem roundEven_isNearest (num : Nat) {den : Nat} (hden : 0 < den) :
    IsNearest (roundEven num den) (num / den) := by
  have hcast : (0 : ℚ) < den := Nat.cast_pos.2 hden
  have heven : _ → roundEven num den % 2 = 0 := roundEven_even hden
  obtain ⟨hlow, hhigh⟩ := roundEven_near num hden
  -- the difference is a whole number of parts of the size of the denominator
  obtain ⟨parts, hparts⟩ :
      ∃ parts, ((num : Int) - (den * roundEven num den : Nat)).natAbs = parts :=
    ⟨_, rfl⟩
  have hdistance : |(num / den : ℚ) - roundEven num den| = parts / den := by
    have hdiff : (num / den : ℚ) - roundEven num den =
        ((num : Int) - (den * roundEven num den : Nat) : Int) / den := by
      push_cast
      field_simp
    rw [hdiff, abs_div, abs_of_pos hcast, ← hparts, Nat.cast_natAbs, Int.cast_abs]
  rw [IsNearest, hdistance, ← mul_div_assoc, div_lt_one hcast, div_eq_one_iff_eq hcast.ne']
  rcases Nat.lt_or_ge (2 * parts) den with hless | hmore
  · exact .inl (by exact_mod_cast hless)
  · have htie : 2 * parts = den := by omega
    exact .inr ⟨by exact_mod_cast htie, heven (by omega)⟩

/-- A decimal in writing with a number of places, without a sign, that is nearest to a magnitude. -/
def IsFixedText (places : Nat) (m : Magnitude) (cs : List Char) : Prop :=
  ∃ whole ds, cs = whole ++ '.' :: ds ∧ IsWholePart whole ∧ AreDigits ds ∧ ds.length = places ∧
    IsNearest (Nat.ofDigitChars 10 (whole ++ ds) 0) (m.value * 10 ^ places)

/-- A finite number is written in fixed notation as the nearest decimal, with a sign. -/
theorem fixedText_finite {places : Nat} (hplaces : places ≠ 0) {x : Float} {negative : Bool}
    {m : Magnitude} (h : read x = .finite negative m) :
    ∃ cs, (fixedText places x).toList = signed negative cs ∧ IsFixedText places m cs := by
  obtain ⟨whole, ds, hpointed, hwhole, hds, hlength, hn⟩ :=
    pointed_form hplaces (roundEven (m.num * tenPow places) m.den)
  refine ⟨_, by rw [fixedText, h, String.toList_ofList], whole, ds, hpointed, hwhole, hds, hlength,
    ?_⟩
  have hvalue : m.value * 10 ^ places = (m.num * tenPow places : Nat) / (m.den : Nat) := by
    rw [Magnitude.value, Magnitude.num, Magnitude.den, zpow_eq_div (by norm_num) m.exponent]
    simp only [twoPow, tenPow, Nat.pow_eq, Nat.cast_mul, Nat.cast_pow, Nat.cast_ofNat]
    ring
  rw [hn, hvalue]
  exact roundEven_isNearest _ m.den_pos

end StubClass.Number
