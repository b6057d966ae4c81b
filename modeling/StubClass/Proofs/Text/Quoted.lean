import Mathlib.Algebra.Group.Nat.Defs
import Mathlib.Logic.Function.Basic
import Mathlib.Tactic.SplitIfs
import StubClass.Number.Hexadecimal
import StubClass.Proofs.Text.Apart
import StubClass.Text.Quoted

set_option autoImplicit false

/-! # Quoted text shows what it quotes

What stands between quotes is read back character by character: each escape is told by the character
behind its backslash, and those by code point have a fixed number of digits
(`escapeChar_standsFor`). No escape starts with the mark, so the text ends at the mark and not
before, whatever follows (`quoted_tellsApart`). With bytes it is the same. -/

namespace StubClass.Text

/-! ## Digits -/

theorem hexDigits_length (width n : Nat) : (hexDigits width n).length = width := by
  induction width generalizing n with
  | zero => rfl
  | succ width ih => rw [hexDigits, List.length_append, ih, List.length_singleton]

theorem hexDigit?_digitChar : ∀ d < 16, Number.hexDigit? (Nat.digitChar d) = some d := by
  decide

theorem hexValue_hexDigits (width n : Nat) :
    Number.hexValue (hexDigits width n) = n % 16 ^ width := by
  induction width generalizing n with
  | zero => simp [hexDigits, Number.hexValue, Nat.mod_one]
  | succ width ih =>
      have hdigit := hexDigit?_digitChar (n % 16) (Nat.mod_lt _ (by decide))
      have happend : Number.hexValue (hexDigits (width + 1) n) =
          16 * Number.hexValue (hexDigits width (n / 16)) + n % 16 := by
        rw [hexDigits, Number.hexValue, List.foldl_append, List.foldl_cons, List.foldl_nil, hdigit]
        rfl
      rw [happend, ih, Nat.pow_succ', Nat.mod_mul, Nat.add_comm]

/-! ## Reading what is quoted -/

/-- The character of a number of digits, and what is behind them. -/
def readCode (width : Nat) (cs : List Char) : Char × List Char :=
  (Char.ofNat (Number.hexValue (cs.take width)), cs.drop width)

/-- Reads one character of what stands between quotes, and tells what is behind it. -/
def readEscaped : List Char → Option (Char × List Char)
  | [] => none
  | '\\' :: 'x' :: cs => some (readCode 2 cs)
  | '\\' :: 'u' :: cs => some (readCode 4 cs)
  | '\\' :: 'U' :: cs => some (readCode 8 cs)
  | '\\' :: 'n' :: cs => some ('\n', cs)
  | '\\' :: 'r' :: cs => some ('\r', cs)
  | '\\' :: 't' :: cs => some ('\t', cs)
  | '\\' :: c :: cs => some (c, cs)
  | c :: cs => some (c, cs)

theorem readCode_hexDigits (width : Nat) {code : Nat} (h : code < 16 ^ width) (r : List Char) :
    readCode width (hexDigits width code ++ r) = (Char.ofNat code, r) := by
  have hlength := hexDigits_length width code
  rw [readCode, List.take_left' hlength, List.drop_left' hlength, hexValue_hexDigits,
    Nat.mod_eq_of_lt h]

/-- An escape by code point is read back in each of its three forms. -/
theorem readEscaped_codeEscape (c : Char) (r : List Char) :
    readEscaped (codeEscape c.toNat ++ r) = some (c, r) := by
  have hread (width : Nat) (h : c.toNat < 16 ^ width) :
      readCode width (hexDigits width c.toNat ++ r) = (c, r) := by
    rw [readCode_hexDigits width h, Char.ofNat_toNat]
  have hlast : c.toNat < 16 ^ 8 := by
    have hvalid : c.toNat < 0xd800 ∨ 0xdfff < c.toNat ∧ c.toNat < 0x110000 := c.valid
    omega
  unfold codeEscape
  split
  · next hsmall => exact congrArg some (hread 2 (by omega))
  · split
    · next hmiddle => exact congrArg some (hread 4 (by omega))
    · exact congrArg some (hread 8 hlast)

/-- A text that stands for a character between two marks: it is read back, whatever is behind it,
and does not start with a mark. -/
structure StandsFor (mark c : Char) (text : List Char) : Prop where
  read : ∀ r, readEscaped (text ++ r) = some (c, r)
  starts : ∀ r s, text ++ r ≠ mark :: s

section Escapes

variable {mark c : Char}

/-- The marks are not among the characters that say what an escape is. -/
theorem mark_cases (hmark : mark = apostrophe ∨ mark = doubleQuote) :
    mark ≠ '\\' ∧ mark ≠ 'x' ∧ mark ≠ 'u' ∧ mark ≠ 'U' ∧ mark ≠ 'n' ∧ mark ≠ 'r' ∧ mark ≠ 't' := by
  rcases hmark with rfl | rfl <;> decide

/-- Behind a backslash a character that does not say what an escape is stands for itself. -/
theorem standsFor_backslash (hmark : mark = apostrophe ∨ mark = doubleQuote)
    (h : c = '\\' ∨ c = mark) : StandsFor mark c ['\\', c] where
  read r := by
    obtain ⟨-, hx, hu, hU, hn, hr, ht⟩ := mark_cases hmark
    rcases h with rfl | rfl
    · rfl
    · show readEscaped ('\\' :: c :: r) = some (c, r)
      simp [readEscaped]
  starts _ _ heq := (mark_cases hmark).1 (List.cons.inj heq).1.symm

theorem standsFor_self (h : ¬ (c = '\\' ∨ c = mark)) : StandsFor mark c [c] where
  read r := by
    have hc : c ≠ '\\' := fun hc => h (.inl hc)
    show readEscaped (c :: r) = some (c, r)
    simp [readEscaped, hc]
  starts _ _ heq := h (.inr (List.cons.inj heq).1)

/-- A text that starts with a backslash is no mark. -/
theorem standsFor_of_read (hmark : mark = apostrophe ∨ mark = doubleQuote) {text : List Char}
    (h : ∀ r, readEscaped ('\\' :: text ++ r) = some (c, r)) : StandsFor mark c ('\\' :: text) where
  read := h
  starts _ _ heq := (mark_cases hmark).1 (List.cons.inj heq).1.symm

/-- The escapes that texts and bytes share; `long` is how all other characters are written. -/
theorem standsFor_short (hmark : mark = apostrophe ∨ mark = doubleQuote) {long : List Char}
    (hlong : ¬ (c = '\\' ∨ c = mark) → StandsFor mark c long) :
    StandsFor mark c
      (if c = '\\' ∨ c = mark then ['\\', c]
        else if c = '\n' then ['\\', 'n']
        else if c = '\r' then ['\\', 'r']
        else if c = '\t' then ['\\', 't']
        else long) := by
  by_cases h : c = '\\' ∨ c = mark
  · rw [if_pos h]
    exact standsFor_backslash hmark h
  · rw [if_neg h]
    by_cases hn : c = '\n'
    · rw [if_pos hn]
      exact standsFor_of_read hmark fun r => by rw [hn]; rfl
    · rw [if_neg hn]
      by_cases hr : c = '\r'
      · rw [if_pos hr]
        exact standsFor_of_read hmark fun r => by rw [hr]; rfl
      · rw [if_neg hr]
        by_cases ht : c = '\t'
        · rw [if_pos ht]
          exact standsFor_of_read hmark fun r => by rw [ht]; rfl
        · rw [if_neg ht]
          exact hlong h

theorem escapeChar_standsFor (hmark : mark = apostrophe ∨ mark = doubleQuote) (c : Char) :
    StandsFor mark c (escapeChar mark c) := by
  refine standsFor_short hmark fun h => ?_
  split
  · exact standsFor_self h
  · -- each form of an escape by code point starts with a backslash
    have hcode := readEscaped_codeEscape c
    unfold codeEscape at hcode ⊢
    split_ifs at hcode ⊢ <;> exact standsFor_of_read hmark hcode

theorem escapeByte_standsFor (hmark : mark = apostrophe ∨ mark = doubleQuote) (b : UInt8) :
    StandsFor mark (Char.ofNat b.toNat) (escapeByte mark b) := by
  refine standsFor_short hmark fun h => ?_
  split
  · exact standsFor_self h
  · exact standsFor_of_read hmark fun r =>
      congrArg some (readCode_hexDigits 2 b.toNat_lt r)

end Escapes

/-! ## Whole texts -/

theorem charOfByte_injective : Function.Injective fun b : UInt8 => Char.ofNat b.toNat := by
  intro a b h
  have hvalue (n : UInt8) : (Char.ofNat n.toNat).toNat = n.toNat := by
    have hvalid : n.toNat.isValidChar := .inl (by have := n.toNat_lt; omega)
    have hchar : Char.ofNat n.toNat = Char.ofNatAux n.toNat hvalid := dif_pos hvalid
    rw [hchar]
    rfl
  have hnat := congrArg Char.toNat h
  rw [hvalue, hvalue] at hnat
  exact UInt8.toNat_inj.1 hnat

/-- What is written for things between marks, each by a text that stands for its character, ends at
the mark. -/
theorem escaped_inj {α : Type} {mark : Char} {write : α → List Char} {char : α → Char}
    (hchar : Function.Injective char) (h : ∀ x, StandsFor mark (char x) (write x)) {xs ys : List α}
    {r s : List Char} (heq : xs.flatMap write ++ mark :: r = ys.flatMap write ++ mark :: s) :
    xs = ys ∧ r = s :=
  flatMap_tellsApart (fun _ => True) (fun _ => trivial) (fun _ _ => trivial)
    (fun x _ y _ => tellsApart_of_read (fun hxy => hchar hxy) (h x).read (h y).read)
    (fun x _ => (h x).starts) (fun y _ => (h y).starts) heq

/-- **Quoted texts are told apart, whatever follows.** -/
theorem quoted_tellsApart (cs ds : List Char) : TellsApart quoted (fun _ => True) cs ds := by
  intro r s _ _ h
  simp only [quoted, List.cons_append, List.append_assoc, List.nil_append] at h
  obtain ⟨hmark, hbody⟩ := List.cons.inj h
  rw [← hmark] at hbody
  exact escaped_inj Function.injective_id (escapeChar_standsFor (quoteMark_cases cs)) hbody

theorem quotedBytes_tellsApart (as bs : List UInt8) :
    TellsApart quotedBytes (fun _ => True) as bs := by
  intro r s _ _ h
  simp only [quotedBytes, List.cons_append, List.append_assoc, List.nil_append] at h
  obtain ⟨hmark, hbody⟩ := List.cons.inj h
  rw [← hmark] at hbody
  exact escaped_inj charOfByte_injective (escapeByte_standsFor (quoteMark_cases _)) hbody

end StubClass.Text
