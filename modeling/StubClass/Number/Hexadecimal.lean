import StubClass.Number.FloatText

set_option autoImplicit false

/-! # Floating point numbers in hexadecimal digits

A number as hexadecimal digits with a power of two: what is written shows every bit of the number,
and what is read is rounded once. Bytes are written with two digits each. -/

namespace StubClass.Number

/-! ## Writing -/

/-- A number in hexadecimal digits: one before the point and thirteen after it. -/
def hexText (x : Float) : String :=
  match read x with
  | .notANumber => "nan"
  | .infinite negative => if negative then "-inf" else "inf"
  | .finite negative m =>
    let sign := if negative then "-" else ""
    if m.significand == 0 then sign ++ "0x0.0p+0"
    else
      let lead := if m.significand < twoPow 52 then "0x0." else "0x1."
      let ds := Nat.toDigits 16 (m.significand % twoPow 52)
      let e := m.exponent + 52
      sign ++ lead ++ String.ofList (List.replicate (13 - ds.length) '0' ++ ds) ++ "p"
        ++ (if e < 0 then "-" else "+") ++ String.ofList (Nat.toDigits 10 e.natAbs)

/-! ## Reading -/

/-- Whether a character is a blank of ASCII. -/
def isPlainBlank (c : Char) : Bool :=
  c == ' ' || (9 ≤ c.toNat && c.toNat ≤ 13)

/-- The value of a hexadecimal digit of ASCII. -/
def hexDigit? (c : Char) : Option Nat :=
  if c.toNat < 128 then digitOf? 16 c else none

/-- The value of hexadecimal digits. -/
def hexValue (cs : List Char) : Nat :=
  cs.foldl (fun n c => 16 * n + (hexDigit? c).getD 0) 0

/-- The number nearest to an integer times a power of two. Beyond the sizes of all numbers there is
nothing but zero and infinity. -/
def nearestBinary (n : Nat) (e : Int) : Float :=
  let lead : Int := n.log2 + e
  if n == 0 || lead < -1100 then 0.0
  else if 1100 < lead then 1.0 / 0.0
  else if 0 ≤ e then nearest (n * twoPow e.toNat) 1
  else nearest n (twoPow (-e).toNat)

/-- Reads the exponent after its letter: a sign and digits. -/
def hexExponent? : List Char → Option Int
  | [] => some 0
  | c :: cs =>
    let (negative, ds) := splitSign cs
    if (c == 'p' || c == 'P') && !ds.isEmpty && ds.all Char.isDigit then
      some (if negative then -(digitsValue ds).1 else (digitsValue ds).1)
    else none

/-- Reads a number without its sign, given in hexadecimal digits with or without a mark, a point and
an exponent. -/
def readHexMagnitude? (cs : List Char) : Option Float :=
  let cs := match cs with
    | '0' :: c :: rest => if c == 'x' || c == 'X' then rest else cs
    | cs => cs
  let isDigit (c : Char) : Bool := (hexDigit? c).isSome
  let whole := cs.takeWhile isDigit
  let (places, rest) := match cs.drop whole.length with
    | '.' :: rest => (rest.takeWhile isDigit, rest.dropWhile isDigit)
    | rest => ([], rest)
  if (whole ++ places).isEmpty then none
  else
    (hexExponent? rest).map fun e =>
      nearestBinary (hexValue (whole ++ places)) (e - 4 * places.length)

/-- What a text of hexadecimal digits stands for. -/
inductive HexReading where
  | invalid
  | tooLarge
  | number (x : Float)

/-- Reads a number in hexadecimal digits, or the name of an infinity or of no number; blanks may
stand around it. -/
def readHex (text : String) : HexReading :=
  let cs := ((text.toList.dropWhile isPlainBlank).reverse.dropWhile isPlainBlank).reverse
  let (negative, rest) := splitSign cs
  let name := String.ofList (rest.map Char.toLower)
  if name == "inf" || name == "infinity" then .number (withSign negative (1.0 / 0.0))
  else if name == "nan" then .number (0.0 / 0.0)
  else
    match readHexMagnitude? rest with
    | none => .invalid
    | some x => if x.isInf then .tooLarge else .number (withSign negative x)

end StubClass.Number
