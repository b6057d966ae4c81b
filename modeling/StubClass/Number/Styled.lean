import StubClass.Number.FloatText
import StubClass.Text.Form

set_option autoImplicit false

/-! # Numbers in a form

A floating point number in fixed notation, in the notation with an exponent, or in the shorter one
of the two, with a number of digits that the form asks for; and a whole number in some base. -/

namespace StubClass.Number

/-- The greatest power of ten that is not above a positive number. -/
def leadExponent (num den : Nat) : Int :=
  let guess : Int :=
    ((Nat.toDigits 10 num).length : Int) - ((Nat.toDigits 10 den).length : Int)
  let isAtMost (e : Int) : Bool :=
    if 0 ≤ e then den * tenPow e.toNat ≤ num else den ≤ num * tenPow (-e).toNat
  if isAtMost guess then guess else guess - 1

/-- A positive number as so many digits and the exponent of the first of them. -/
def leadDigits (count : Nat) (num den : Nat) : Nat × Int :=
  let e := leadExponent num den
  let shift : Int := (count : Int) - 1 - e
  let n :=
    if 0 ≤ shift then roundEven (num * tenPow shift.toNat) den
    else roundEven num (den * tenPow (-shift).toNat)
  if (Nat.toDigits 10 n).length > count then (n / 10, e + 1) else (n, e)

/-- The digits of a magnitude with an exponent: those before the point, and what follows. -/
def exponentForm (places : Nat) (alternate : Bool) (m : Magnitude) : List Char × List Char :=
  let (n, e) := if m.significand == 0 then (0, 0) else leadDigits (places + 1) m.num m.den
  let ds := Nat.toDigits 10 n
  let ds := ds ++ List.replicate (places + 1 - ds.length) '0'
  let point := if places == 0 then (if alternate then ['.'] else []) else '.' :: ds.drop 1
  (ds.take 1, point ++ 'e' :: exponentChars e)

/-- The digits of a magnitude in fixed notation: those before the point, and what follows. -/
def fixedForm (places : Nat) (alternate : Bool) (m : Magnitude) : List Char × List Char :=
  let ds := Nat.toDigits 10 (roundEven (m.num * tenPow places) m.den)
  let ds := List.replicate (places + 1 - ds.length) '0' ++ ds
  let whole := ds.length - places
  (ds.take whole, if places == 0 then (if alternate then ['.'] else []) else '.' :: ds.drop whole)

/-- What follows the digits before the point, without zeros at the end of the places. -/
def dropZeros (rest : List Char) : List Char :=
  let places := rest.takeWhile (· != 'e')
  let kept := (places.reverse.dropWhile (· == '0')).reverse
  let kept := if kept == ['.'] then [] else kept
  kept ++ rest.drop places.length

/-- The digits of a magnitude in the shorter notation of so many digits, which is the fixed one up
to an exponent. -/
def generalForm (count : Nat) (bound : Int) (alternate : Bool) (m : Magnitude) :
    List Char × List Char :=
  let count := max count 1
  let e := if m.significand == 0 then 0 else (leadDigits count m.num m.den).2
  let (whole, rest) :=
    if -4 ≤ e ∧ e < bound then fixedForm ((count : Int) - 1 - e).toNat alternate m
    else exponentForm (count - 1) alternate m
  (whole, if alternate then rest else dropZeros rest)

/-- The natural notation split at the end of the digits before the point. -/
def naturalForm (alternate : Bool) (x : Float) : List Char × List Char :=
  let cs := floatChars x.abs
  let whole := cs.takeWhile Char.isDigit
  let rest := cs.drop whole.length
  (whole, if alternate && rest.head? == some 'e' then '.' :: rest else rest)

/-- A number in a form, in a notation of floating point numbers. -/
def floatInForm (f : Text.Form) (x : Float) : List Char :=
  let isPercent := f.letter == some '%'
  let x := if isPercent then x * 100.0 else x
  let kind := match f.letter, f.precision with
    | some '%', _ => 'f'
    | some 'n', _ => 'g'
    | some c, _ => c
    | none, some _ => 'G'
    | none, none => 'r'
  let isUpper := f.letter.any Char.isUpper
  let raise (cs : List Char) : List Char := if isUpper then cs.map Char.toUpper else cs
  let percent := if isPercent then ['%'] else []
  match read x with
  | .notANumber => f.layOut false [] [] (raise "nan".toList ++ percent)
  | .infinite negative => f.layOut negative [] [] (raise "inf".toList ++ percent)
  | .finite negative m =>
    let precision := f.precision.getD 6
    let (whole, rest) := match kind, f.letter with
      | 'r', _ => naturalForm f.alternate x
      | 'e', _ | 'E', _ => exponentForm precision f.alternate m
      | 'f', _ | 'F', _ => fixedForm precision f.alternate m
      | 'G', none =>
        let (whole, rest) := generalForm precision ((max precision 1 : Nat) - 1) f.alternate m
        (whole, if rest.isEmpty then ['.', '0'] else rest)
      | _, _ => generalForm precision (max precision 1 : Nat) f.alternate m
    let isZero := (whole ++ rest.takeWhile (· != 'e')).all fun c => !c.isDigit || c == '0'
    let negative := negative && !(f.plainZero && isZero)
    f.layOut negative [] whole (raise rest ++ percent)

/-- A whole number in a form, in a notation of whole numbers. -/
def wholeInForm (f : Text.Form) (n : Int) : List Char :=
  let based (base : Nat) (mark : Char) : List Char × List Char :=
    (if f.alternate then ['0', mark] else [], Nat.toDigits base n.natAbs)
  let (mark, digits) := match f.letter with
    | some 'b' => based 2 'b'
    | some 'o' => based 8 'o'
    | some 'x' => based 16 'x'
    | some 'X' =>
      let (mark, digits) := based 16 'X'
      (mark, digits.map Char.toUpper)
    | _ => ([], Nat.toDigits 10 n.natAbs)
  f.layOut (n < 0) mark digits []

end StubClass.Number
