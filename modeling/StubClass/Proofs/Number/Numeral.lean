import Mathlib.Data.Nat.Digits.Defs
import StubClass.Number.Numeral
import StubClass.Value.Text

set_option autoImplicit false

/-! # Integers that are read

An integer written by hand is a grammar with a value: blanks around a sign and digits of any script,
with at most one underscore between two of them (`Spells`). Reading such a text goes from left to
right with the value so far, so it is compared with the grammar by induction on the characters
(`readDigits_of_follows`, `follows_of_readDigits`); at the ends, blanks are no digits and no signs,
so taking them away finds the same middle (`IsPadded.trimBlanks_eq`). Up to the number of digits
that are read at all, reading is exactly the grammar (`readInteger?_eq_some_iff`). -/

namespace StubClass.Number

/-! ## The grammar -/

/-- Characters, and the same with at most one underscore between two of them. -/
inductive Separated : List Char → List Char → Prop where
  | last (c : Char) : Separated [c] [c]
  | next (c : Char) {cs ds : List Char} (h : Separated cs ds) : Separated (c :: cs) (c :: ds)
  | apart (c : Char) {cs ds : List Char} (h : Separated cs ds) :
      Separated (c :: '_' :: cs) (c :: ds)

/-- Characters are digits of some values, the first of which counts most. -/
def IsNatural (cs : List Char) (v : Nat) : Prop :=
  ∃ (digits : List Char) (values : List Nat), Separated cs digits ∧
    digits.map digit? = values.map some ∧ v = Nat.ofDigits 10 values.reverse

/-- Characters are a natural number with a sign, which may be left out. -/
inductive IsNumeral : List Char → Int → Prop where
  | plain {cs : List Char} {v : Nat} (h : IsNatural cs v) : IsNumeral cs v
  | plus {cs : List Char} {v : Nat} (h : IsNatural cs v) : IsNumeral ('+' :: cs) v
  | minus {cs : List Char} {v : Nat} (h : IsNatural cs v) : IsNumeral ('-' :: cs) (-v)

/-- Characters with blanks around them. -/
def IsPadded (cs core : List Char) : Prop :=
  ∃ before after, cs = before ++ core ++ after ∧ (∀ c ∈ before, isBlank c = true) ∧
    ∀ c ∈ after, isBlank c = true

/-- A text stands for an integer. -/
def Spells (text : String) (n : Int) : Prop :=
  ∃ core, IsPadded text.toList core ∧ IsNumeral core n

/-- A text is what is written for an integer, or that with blanks around it, zeros in front of the
digits, single underscores between digits, or a plus sign where there is no minus. -/
def IsVariant (n : Int) (text : String) : Prop :=
  ∃ core body zeros, IsPadded text.toList core ∧
    Separated body (List.replicate zeros '0' ++ Nat.toDigits 10 n.natAbs) ∧
      (core = body ∧ 0 ≤ n ∨ core = '+' :: body ∧ 0 ≤ n ∨ core = '-' :: body ∧ n < 0)

/-! ## Characters -/

theorem digit?_lt {c : Char} {d : Nat} (h : digit? c = some d) : d < 10 := by
  obtain ⟨base, hbase, rfl⟩ := Option.map_eq_some_iff.1 h
  have := List.find?_some hbase
  simp only [Bool.and_eq_true, decide_eq_true_eq] at this
  omega

theorem digitOf?_ten (c : Char) : digitOf? 10 c = digit? c := by
  unfold digitOf?
  cases h : digit? c with
  | some d => simp [Option.filter, digit?_lt h]
  | none =>
      unfold letterValue?
      simp only [Option.orElse_none]
      split
      · simp [Option.filter]
      · split <;> simp [Option.filter]

theorem digit?_underscore : digit? '_' = none := by
  decide

theorem isBlank_eq_false_of_digit? {c : Char} {d : Nat} (h : digit? c = some d) :
    isBlank c = false := by
  have hapart : ∀ b ∈ blanks, ∀ base ∈ zeroDigits, ¬ (base ≤ b ∧ b < base + 10) := by decide
  obtain ⟨base, hbase, -⟩ := Option.map_eq_some_iff.1 h
  have hrange := List.find?_some hbase
  simp only [Bool.and_eq_true, decide_eq_true_eq] at hrange
  rw [isBlank, Bool.eq_false_iff, ne_eq, List.contains_iff_mem]
  exact fun hb => hapart _ hb base (List.mem_of_find?_eq_some hbase) hrange

/-- A digit as it is written is read as what it was written for. -/
theorem digit?_of_isDigit {c : Char} (h : c.isDigit = true) :
    digit? c = some (c.toNat - '0'.toNat) := by
  have hrange : 48 ≤ c.toNat ∧ c.toNat < 48 + 10 := by
    have := Char.isDigit_iff_toNat.1 h
    exact ⟨this.1, Nat.lt_succ_of_le this.2⟩
  rw [digit?, zeroDigits, List.find?_cons_of_pos (by simpa using hrange)]
  rfl

/-! ## Digits -/

/-- What may follow a digit. -/
def Follows (cs digits : List Char) : Prop :=
  (cs = [] ∧ digits = []) ∨ Separated cs digits ∨ ∃ rest, cs = '_' :: rest ∧ Separated rest digits

theorem separated_cons_iff {c : Char} {cs digits : List Char} :
    Separated (c :: cs) digits ↔ ∃ rest, digits = c :: rest ∧ Follows cs rest := by
  constructor
  · intro h
    cases h with
    | last => exact ⟨[], rfl, .inl ⟨rfl, rfl⟩⟩
    | next _ h => exact ⟨_, rfl, .inr (.inl h)⟩
    | apart _ h => exact ⟨_, rfl, .inr (.inr ⟨_, rfl, h⟩)⟩
  · rintro ⟨rest, rfl, ⟨rfl, rfl⟩ | h | ⟨rest', rfl, h⟩⟩
    · exact .last c
    · exact .next c h
    · exact .apart c h

theorem Separated.exists_cons {cs digits : List Char} (h : Separated cs digits) :
    ∃ c cs' rest, cs = c :: cs' ∧ digits = c :: rest ∧ Follows cs' rest := by
  cases cs with
  | nil => cases h
  | cons c cs' =>
      obtain ⟨rest, hdigits, hfollows⟩ := separated_cons_iff.1 h
      exact ⟨c, cs', rest, rfl, hdigits, hfollows⟩

/-- The value of digits that follow a value. -/
def valueFrom (value : Nat) (values : List Nat) : Nat :=
  values.foldl (fun v d => 10 * v + d) value

theorem valueFrom_zero (values : List Nat) :
    valueFrom 0 values = Nat.ofDigits 10 values.reverse := by
  rw [Nat.ofDigits_eq_foldr, List.foldr_reverse, valueFrom]
  congr 1
  funext v d
  exact Nat.add_comm _ _

theorem readDigits_cons {c : Char} {d : Nat} (h : digit? c = some d) (value : Nat)
    (cs : List Char) : readDigits 10 value (c :: cs) = readDigits 10 (10 * value + d) cs := by
  have hc : c ≠ '_' := by
    rintro rfl
    rw [digit?_underscore] at h
    cases h
  rw [readDigits, digitOf?_ten, h, Option.bind_some]
  · rintro rfl
    exact absurd rfl hc
  · rintro _ _ rfl
    exact absurd rfl hc

theorem readDigits_underscore {c : Char} {d : Nat} (h : digit? c = some d) (value : Nat)
    (cs : List Char) :
    readDigits 10 value ('_' :: c :: cs) = readDigits 10 (10 * value + d) cs := by
  rw [readDigits, digitOf?_ten, h, Option.bind_some]

theorem readDigits_of_follows {cs digits : List Char} {values : List Nat} (value : Nat)
    (h : Follows cs digits) (hvalues : digits.map digit? = values.map some) :
    readDigits 10 value cs = some (valueFrom value values) := by
  induction values generalizing value cs digits with
  | nil =>
      obtain rfl : digits = [] := by simpa using hvalues
      rcases h with ⟨rfl, -⟩ | h | ⟨_, -, h⟩
      · rfl
      · cases h
      · cases h
  | cons d values ih =>
      obtain ⟨c, digits, rfl, hc, hvalues⟩ := List.map_eq_cons_iff.1 hvalues
      rcases h with ⟨-, h⟩ | h | ⟨rest, rfl, h⟩
      · cases h
      · obtain ⟨c', cs, rest, rfl, hdigits, h⟩ := h.exists_cons
        obtain ⟨rfl, rfl⟩ := List.cons.inj hdigits
        rw [readDigits_cons hc, ih _ h hvalues]
        rfl
      · obtain ⟨c', cs, rest, rfl, hdigits, h⟩ := h.exists_cons
        obtain ⟨rfl, rfl⟩ := List.cons.inj hdigits
        rw [readDigits_underscore hc, ih _ h hvalues]
        rfl

/-- What is read after a digit is what may follow one. -/
theorem follows_of_readDigits {cs : List Char} {value n : Nat}
    (h : readDigits 10 value cs = some n) : ∃ (digits : List Char) (values : List Nat),
      Follows cs digits ∧ digits.map digit? = values.map some ∧ n = valueFrom value values := by
  fun_induction readDigits 10 value cs with
  | case1 value => exact ⟨[], [], .inl ⟨rfl, rfl⟩, rfl, (Option.some.inj h).symm⟩
  | case2 => cases h
  | case3 value c cs ih =>
      rw [digitOf?_ten] at h
      obtain ⟨d, hd, h⟩ := Option.bind_eq_some_iff.1 h
      obtain ⟨digits, values, hfollows, hvalues, rfl⟩ := ih d h
      refine ⟨c :: digits, d :: values, .inr (.inr ⟨_, rfl, ?_⟩), ?_, rfl⟩
      · exact separated_cons_iff.2 ⟨digits, rfl, hfollows⟩
      · rw [List.map_cons, List.map_cons, hd, hvalues]
  | case4 value c cs _ _ ih =>
      rw [digitOf?_ten] at h
      obtain ⟨d, hd, h⟩ := Option.bind_eq_some_iff.1 h
      obtain ⟨digits, values, hfollows, hvalues, rfl⟩ := ih d h
      refine ⟨c :: digits, d :: values, .inr (.inl ?_), ?_, rfl⟩
      · exact separated_cons_iff.2 ⟨digits, rfl, hfollows⟩
      · rw [List.map_cons, List.map_cons, hd, hvalues]

theorem readNatural?_eq_some_iff {cs : List Char} {n : Nat} :
    readNatural? 10 cs = some n ↔ IsNatural cs n := by
  cases cs with
  | nil =>
      constructor
      · intro h
        cases h
      · rintro ⟨_, _, h, -⟩
        cases h
  | cons c cs =>
      rw [readNatural?, digitOf?_ten, Option.bind_eq_some_iff]
      constructor
      · rintro ⟨d, hd, h⟩
        obtain ⟨digits, values, hfollows, hvalues, rfl⟩ := follows_of_readDigits h
        refine ⟨c :: digits, d :: values, separated_cons_iff.2 ⟨_, rfl, hfollows⟩, ?_, ?_⟩
        · rw [List.map_cons, List.map_cons, hd, hvalues]
        · rw [← valueFrom_zero]
          simp [valueFrom]
      · rintro ⟨digits, values, h, hvalues, rfl⟩
        obtain ⟨rest, rfl, hfollows⟩ := separated_cons_iff.1 h
        obtain ⟨d, values, rfl, hd, hrest⟩ := List.map_eq_cons_iff.1 hvalues.symm
        refine ⟨d, hd.symm, ?_⟩
        rw [readDigits_of_follows d hfollows hrest.symm, ← valueFrom_zero]
        simp [valueFrom]

/-! ## Signs -/

theorem IsNatural.exists_cons {cs : List Char} {v : Nat} (h : IsNatural cs v) :
    ∃ c cs' d, cs = c :: cs' ∧ digit? c = some d := by
  obtain ⟨digits, values, h, hvalues, -⟩ := h
  obtain ⟨c, cs', rest, rfl, rfl, -⟩ := h.exists_cons
  obtain ⟨d, -, -, hd, -⟩ := List.map_eq_cons_iff.1 hvalues.symm
  exact ⟨c, cs', d, rfl, hd.symm⟩

theorem readSigned?_minus (read : List Char → Option Nat) (cs : List Char) :
    readSigned? read ('-' :: cs) = (read cs).map fun v : Nat => -(v : Int) := by
  show (Option.map Neg.neg ((read cs).bind fun v => some (v : Int))) = _
  cases read cs <;> rfl

theorem readSigned?_plus (read : List Char → Option Nat) (cs : List Char) :
    readSigned? read ('+' :: cs) = (read cs).map fun v : Nat => (v : Int) := by
  show (Option.map id ((read cs).bind fun v => some (v : Int))) = _
  cases read cs <;> rfl

theorem readSigned?_plain (read : List Char → Option Nat) {cs : List Char}
    (hminus : ∀ rest, cs ≠ '-' :: rest) (hplus : ∀ rest, cs ≠ '+' :: rest) :
    readSigned? read cs = (read cs).map fun v : Nat => (v : Int) := by
  unfold readSigned?
  split
  · exact absurd rfl (hminus _)
  · exact absurd rfl (hplus _)
  · cases read cs <;> rfl

theorem readSigned?_eq_some_iff {cs : List Char} {n : Int} :
    readSigned? (readNatural? 10) cs = some n ↔ IsNumeral cs n := by
  constructor
  · intro h
    by_cases hminus : ∃ rest, cs = '-' :: rest
    · obtain ⟨rest, rfl⟩ := hminus
      obtain ⟨v, hv, rfl⟩ := Option.map_eq_some_iff.1 (readSigned?_minus _ rest ▸ h)
      exact .minus (readNatural?_eq_some_iff.1 hv)
    · by_cases hplus : ∃ rest, cs = '+' :: rest
      · obtain ⟨rest, rfl⟩ := hplus
        obtain ⟨v, hv, rfl⟩ := Option.map_eq_some_iff.1 (readSigned?_plus _ rest ▸ h)
        exact .plus (readNatural?_eq_some_iff.1 hv)
      · rw [readSigned?_plain _ (not_exists.1 hminus) (not_exists.1 hplus)] at h
        obtain ⟨v, hv, rfl⟩ := Option.map_eq_some_iff.1 h
        exact .plain (readNatural?_eq_some_iff.1 hv)
  · rintro (h | h | h)
    · -- what starts with a digit does not start with a sign
      obtain ⟨c, cs, d, rfl, hd⟩ := h.exists_cons
      have hsign : ∀ sign, digit? sign = none → ∀ rest, c :: cs ≠ sign :: rest := by
        intro sign hnone rest heq
        rw [(List.cons.inj heq).1, hnone] at hd
        cases hd
      rw [readSigned?_plain _ (hsign '-' (by decide)) (hsign '+' (by decide)),
        readNatural?_eq_some_iff.2 h]
      rfl
    · rw [readSigned?_plus, readNatural?_eq_some_iff.2 h]
      rfl
    · rw [readSigned?_minus, readNatural?_eq_some_iff.2 h]
      rfl

/-! ## Blanks -/

/-- Blanks are taken away up to characters that are none. -/
theorem IsPadded.trimBlanks_eq {cs core : List Char} (h : IsPadded cs core)
    (hfirst : ∃ c rest, core = c :: rest ∧ isBlank c = false)
    (hlast : ∃ rest c, core = rest ++ [c] ∧ isBlank c = false) : trimBlanks cs = core := by
  obtain ⟨before, after, rfl, hbefore, hafter⟩ := h
  have hfront : (before ++ core ++ after).dropWhile isBlank = core ++ after := by
    obtain ⟨c, rest, rfl, hc⟩ := hfirst
    rw [List.append_assoc, List.dropWhile_append_of_pos hbefore, List.cons_append,
      List.dropWhile_cons_of_neg (by simp [hc])]
  have hback : (core ++ after).reverse.dropWhile isBlank = core.reverse := by
    obtain ⟨rest, c, rfl, hc⟩ := hlast
    rw [List.reverse_append, List.dropWhile_append_of_pos (by simpa using hafter),
      List.reverse_append, List.reverse_singleton, List.singleton_append,
      List.dropWhile_cons_of_neg (by simp [hc])]
  rw [trimBlanks, hfront, hback, List.reverse_reverse]

/-- What is taken away at the ends are blanks. -/
theorem isPadded_trimBlanks (cs : List Char) : IsPadded cs (trimBlanks cs) := by
  have hblank : ∀ l : List Char, ∀ c ∈ l.takeWhile isBlank, isBlank c = true :=
    fun l => List.all_eq_true.1 List.all_takeWhile
  refine ⟨cs.takeWhile isBlank, ((cs.dropWhile isBlank).reverse.takeWhile isBlank).reverse, ?_,
    hblank cs, fun c hc => hblank _ c (List.mem_reverse.1 hc)⟩
  rw [trimBlanks, List.append_assoc, ← List.reverse_append, List.takeWhile_append_dropWhile,
    List.reverse_reverse, List.takeWhile_append_dropWhile]

/-- With underscores between them the last character is the same. -/
theorem Separated.exists_concat {cs digits : List Char} (h : Separated cs digits) :
    ∃ cs' rest c, cs = cs' ++ [c] ∧ digits = rest ++ [c] := by
  induction h with
  | last c => exact ⟨[], [], c, rfl, rfl⟩
  | next c _ ih =>
      obtain ⟨cs', rest, last, rfl, rfl⟩ := ih
      exact ⟨c :: cs', c :: rest, last, rfl, rfl⟩
  | apart c _ ih =>
      obtain ⟨cs', rest, last, rfl, rfl⟩ := ih
      exact ⟨c :: '_' :: cs', c :: rest, last, rfl, rfl⟩

theorem IsNatural.exists_concat {cs : List Char} {v : Nat} (h : IsNatural cs v) :
    ∃ cs' c d, cs = cs' ++ [c] ∧ digit? c = some d := by
  obtain ⟨digits, values, h, hvalues, -⟩ := h
  obtain ⟨cs', rest, c, rfl, rfl⟩ := h.exists_concat
  have hc : digit? c ∈ values.map some :=
    hvalues ▸ List.mem_map_of_mem (List.mem_append_right _ List.mem_cons_self)
  obtain ⟨d, -, hd⟩ := List.mem_map.1 hc
  exact ⟨cs', c, d, rfl, hd.symm⟩

theorem IsNumeral.ends {cs : List Char} {n : Int} (h : IsNumeral cs n) :
    (∃ c rest, cs = c :: rest ∧ isBlank c = false) ∧
      ∃ rest c, cs = rest ++ [c] ∧ isBlank c = false := by
  cases h with
  | plain h =>
      obtain ⟨c, rest, d, hcs, hd⟩ := h.exists_cons
      obtain ⟨rest', c', d', hcs', hd'⟩ := h.exists_concat
      exact ⟨⟨c, rest, hcs, isBlank_eq_false_of_digit? hd⟩,
        ⟨rest', c', hcs', isBlank_eq_false_of_digit? hd'⟩⟩
  | plus h =>
      obtain ⟨rest', c', d', rfl, hd'⟩ := h.exists_concat
      exact ⟨⟨'+', _, rfl, by decide⟩, ⟨'+' :: rest', c', rfl, isBlank_eq_false_of_digit? hd'⟩⟩
  | minus h =>
      obtain ⟨rest', c', d', rfl, hd'⟩ := h.exists_concat
      exact ⟨⟨'-', _, rfl, by decide⟩, ⟨'-' :: rest', c', rfl, isBlank_eq_false_of_digit? hd'⟩⟩

/-! ## Reading -/

/-- Up to the number of digits that are read, a text is read as what it stands for. -/
theorem readInteger?_eq_some_iff {text : String} (h : countDigits text.toList ≤ maxDigits)
    {n : Int} : readInteger? text = some n ↔ Spells text n := by
  have hpadded := isPadded_trimBlanks text.toList
  have hcount : countDigits (trimBlanks text.toList) ≤ maxDigits := by
    obtain ⟨before, after, htext, -, -⟩ := hpadded
    have hsum := congrArg countDigits htext
    simp only [countDigits, List.countP_append] at hsum h ⊢
    omega
  rw [readInteger?, if_pos hcount, readSigned?_eq_some_iff]
  constructor
  · exact fun hn => ⟨_, hpadded, hn⟩
  · rintro ⟨core, hcore, hn⟩
    obtain ⟨hfirst, hlast⟩ := hn.ends
    rwa [hcore.trimBlanks_eq hfirst hlast]

/-! ## What is written is read -/

theorem ofDigitChars_zeros (zeros : Nat) :
    Nat.ofDigitChars 10 (List.replicate zeros '0') 0 = 0 := by
  induction zeros with
  | zero => rfl
  | succ zeros ih => exact ih

/-- Digits as they are written, with zeros in front, are read as what they were written for. -/
theorem isNatural_of_separated {cs : List Char} {zeros n : Nat}
    (h : Separated cs (List.replicate zeros '0' ++ Nat.toDigits 10 n)) : IsNatural cs n := by
  have hdigit : ∀ c ∈ List.replicate zeros '0' ++ Nat.toDigits 10 n, c.isDigit = true := by
    intro c hc
    rcases List.mem_append.1 hc with hc | hc
    · rw [List.eq_of_mem_replicate hc]
      rfl
    · exact Nat.isDigit_of_mem_toDigits (by decide) (by decide) hc
  refine ⟨_, (List.replicate zeros '0' ++ Nat.toDigits 10 n).map fun c => c.toNat - '0'.toNat, h,
    ?_, ?_⟩
  · rw [List.map_map]
    exact List.map_congr_left fun c hc => digit?_of_isDigit (hdigit c hc)
  · rw [← valueFrom_zero, valueFrom, List.foldl_map]
    show n = Nat.ofDigitChars 10 _ 0
    rw [Nat.ofDigitChars_append, ofDigitChars_zeros, Nat.ofDigitChars_ten_toDigits]

theorem Separated.refl {cs : List Char} (h : cs ≠ []) : Separated cs cs := by
  induction cs with
  | nil => exact absurd rfl h
  | cons c cs ih =>
      cases cs with
      | nil => exact .last c
      | cons => exact .next c (ih (List.cons_ne_nil _ _))

/-- Variants of what is written for an integer stand for it. -/
theorem IsVariant.spells {text : String} {n : Int} (h : IsVariant n text) : Spells text n := by
  obtain ⟨core, body, zeros, hpadded, hbody, hsign⟩ := h
  have hnatural := isNatural_of_separated hbody
  refine ⟨core, hpadded, ?_⟩
  rcases hsign with ⟨rfl, hn⟩ | ⟨rfl, hn⟩ | ⟨rfl, hn⟩
  · exact Int.natAbs_of_nonneg hn ▸ IsNumeral.plain hnatural
  · exact Int.natAbs_of_nonneg hn ▸ IsNumeral.plus hnatural
  · have hneg : -(n.natAbs : Int) = n := by omega
    exact hneg ▸ IsNumeral.minus hnatural

theorem plain_int (n : Int) : (Value.int n).plain.toList =
    (if n < 0 then ['-'] else []) ++ Nat.toDigits 10 n.natAbs := by
  have hplain : (Value.int n).plain = String.ofList (Value.intChars n) := rfl
  rw [hplain, String.toList_ofList]
  cases n with
  | ofNat n => rfl
  | negSucc n =>
      rw [if_pos (Int.negSucc_lt_zero n)]
      rfl

/-- What is written for an integer is the first of its variants. -/
theorem isVariant_plain (n : Int) : IsVariant n (Value.int n).plain := by
  have hpadded : IsPadded (Value.int n).plain.toList (Value.int n).plain.toList :=
    ⟨[], [], by rw [List.nil_append, List.append_nil], by simp, by simp⟩
  refine ⟨_, Nat.toDigits 10 n.natAbs, 0, hpadded, .refl Nat.toDigits_ne_nil, ?_⟩
  · rw [plain_int]
    by_cases hn : n < 0
    · exact .inr (.inr ⟨by rw [if_pos hn]; rfl, hn⟩)
    · exact .inl ⟨by rw [if_neg hn]; rfl, Int.not_lt.1 hn⟩

/-- What is written for an integer has no digits but its own. -/
theorem countDigits_plain (n : Int) :
    countDigits (Value.int n).plain.toList = (Nat.toDigits 10 n.natAbs).length := by
  have hdigits : countDigits (Nat.toDigits 10 n.natAbs) = (Nat.toDigits 10 n.natAbs).length := by
    refine List.countP_eq_length.2 fun c hc => ?_
    rw [digit?_of_isDigit (Nat.isDigit_of_mem_toDigits (by decide) (by decide) hc)]
    rfl
  have hsign : countDigits (if n < 0 then ['-'] else []) = 0 := by
    split <;> decide
  rw [plain_int, countDigits, List.countP_append]
  show countDigits _ + countDigits _ = _
  rw [hsign, hdigits, Nat.zero_add]

end StubClass.Number
