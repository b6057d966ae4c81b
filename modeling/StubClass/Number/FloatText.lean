import StubClass.Number.Nearest
import StubClass.Number.Numeral
import StubClass.Number.Shortest

set_option autoImplicit false

/-! # Floating point numbers as text

Two notations are written and one is read. The natural notation gives the shortest decimal: with a
point and at least one digit after it while the leading digit stands between the fourth place after
the point and the sixteenth before it, and with a signed exponent of at least two digits outside.
The fixed notation gives a set number of places, rounding the exact value, a half to the even
neighbour. -/

namespace StubClass.Number

/-! ## The natural notation -/

/-- Digits with the point before the last `places` of them. -/
def pointed (places : Nat) (cs : List Char) : List Char :=
  let padded := List.replicate (places + 1 - cs.length) '0' ++ cs
  let whole := padded.length - places
  padded.take whole ++ '.' :: padded.drop whole

/-- An exponent with its sign and at least two digits. -/
def exponentChars (e : Int) : List Char :=
  let cs := Nat.toDigits 10 e.natAbs
  (if e < 0 then '-' else '+') :: (if cs.length < 2 then '0' :: cs else cs)

/-- A decimal in natural notation. -/
def Decimal.chars (d : Decimal) : List Char :=
  let cs := Nat.toDigits 10 d.digits
  let lead := d.exponent + cs.length - 1
  if -4 ≤ lead ∧ lead < 16 then
    if 0 ≤ d.exponent then cs ++ List.replicate d.exponent.toNat '0' ++ ['.', '0']
    else pointed (-d.exponent).toNat cs
  else
    match cs with
    | [] => []
    | c :: rest => (c :: if rest.isEmpty then [] else '.' :: rest) ++ 'e' :: exponentChars lead

/-- A sign in front of the characters of a magnitude. -/
def signed (negative : Bool) (cs : List Char) : List Char :=
  if negative then '-' :: cs else cs

/-- A number in natural notation. -/
def floatChars (x : Float) : List Char :=
  match read x with
  | .notANumber => "nan".toList
  | .infinite negative => signed negative "inf".toList
  | .finite negative m =>
    signed negative (if m.significand == 0 then "0.0".toList else m.shortest.chars)

/-- A number in natural notation, as a string. -/
def floatText (x : Float) : String :=
  String.ofList (floatChars x)

/-! ## The fixed notation -/

/-- A number with `places` digits after the point. -/
def fixedText (places : Nat) (x : Float) : String :=
  match read x with
  | .notANumber => "nan"
  | .infinite negative => String.ofList (signed negative "inf".toList)
  | .finite negative m =>
    let cs := Nat.toDigits 10 (roundEven (m.num * tenPow places) m.den)
    String.ofList (signed negative (pointed places cs))

/-- A number rounded to places after the point, or before it if their number is negative. So many
places that they show all of the number leave it as it is. -/
def roundedTo (places : Int) (x : Float) : Float :=
  match read x with
  | .finite negative m =>
    if 323 < places then x
    else if places < -308 then withSign negative 0.0
    else
      let n :=
        if 0 ≤ places then roundEven (m.num * tenPow places.toNat) m.den
        else roundEven m.num (m.den * tenPow (-places).toNat)
      withSign negative (nearestDecimal n (-places))
  | _ => x

/-! ## Reading -/

/-- The value of a run of digits, and how many they are. -/
def digitsValue (cs : List Char) : Nat × Nat :=
  (Nat.ofDigitChars 10 cs 0, cs.length)

/-- A sign and the characters after it. -/
def splitSign : List Char → Bool × List Char
  | '-' :: cs => (true, cs)
  | '+' :: cs => (false, cs)
  | cs => (false, cs)

/-- Reads what the natural notation writes: a sign, digits with or without a point, and an
exponent; or the name of an infinity or of no number. -/
def readFloat? (text : String) : Option Float :=
  let (negative, cs) := splitSign text.toList
  let sign := withSign negative
  if cs == "inf".toList then some (sign (1.0 / 0.0))
  else if cs == "nan".toList then some (0.0 / 0.0)
  else
    let whole := cs.takeWhile Char.isDigit
    let (places, rest) := match cs.dropWhile Char.isDigit with
      | '.' :: rest => (rest.takeWhile Char.isDigit, rest.dropWhile Char.isDigit)
      | rest => ([], rest)
    let exponent? : Option Int := match rest with
      | [] => some 0
      | 'e' :: rest =>
        let (below, ds) := splitSign rest
        if ds.isEmpty || !ds.all Char.isDigit then none
        else some (if below then -(digitsValue ds).1 else (digitsValue ds).1)
      | _ => none
    match exponent? with
    | none => none
    | some e =>
      if (whole ++ places).isEmpty then none
      else
        some (sign (nearestDecimal (digitsValue (whole ++ places)).1 (e - places.length)))

/-! ## Numbers written by hand -/

/-- The characters without the underscores that stand between two digits. -/
def dropUnderscores : List Char → List Char
  | a :: '_' :: b :: cs =>
    if a.isDigit && b.isDigit then a :: dropUnderscores (b :: cs)
    else a :: '_' :: dropUnderscores (b :: cs)
  | c :: cs => c :: dropUnderscores cs
  | [] => []

/-- A character as one of ASCII, if it is a digit; a letter of ASCII is made a small one. -/
def plainDigit (c : Char) : Char :=
  match digit? c with
  | some d => Char.ofNat (48 + d)
  | none => c.toLower

/-- Reads a floating point number written by hand: with blanks around it, the digits of any script,
single underscores between them, and letters of either case. -/
def readWrittenFloat? (text : String) : Option Float :=
  let cs := dropUnderscores ((trimBlanks text.toList).map plainDigit)
  let (negative, rest) := splitSign cs
  if rest == "infinity".toList then some (if negative then -1.0 / 0.0 else 1.0 / 0.0)
  else readFloat? (String.ofList cs)

end StubClass.Number
