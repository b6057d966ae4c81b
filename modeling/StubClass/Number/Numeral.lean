import StubClass.Number.Binary

set_option autoImplicit false

/-! # Integers written by hand

An integer may be written with blanks around it, a sign, leading zeros, single underscores between
its digits, and the decimal digits of any script. At most 4300 digits are read, and no more are
written either. The blanks are the 25 characters of the Unicode property `White_Space`; the digits
are the characters of category `Nd`, which come in runs of ten. -/

namespace StubClass.Number

/-! ## Characters -/

/-- The digits zero of all scripts. -/
def zeroDigits : List Nat := [
  48, 1632, 1776, 1984, 2406, 2534, 2662, 2790, 2918, 3046, 3174, 3302, 3430, 3558, 3664, 3792,
  3872, 4160, 4240, 6112, 6160, 6470, 6608, 6784, 6800, 6992, 7088, 7232, 7248, 42528, 43216,
  43264, 43472, 43504, 43600, 44016, 65296, 66720, 68912, 69734, 69872, 69942, 70096, 70384,
  70736, 70864, 71248, 71360, 71472, 71904, 72016, 72784, 73040, 73120, 92768, 92864, 93008,
  120782, 120792, 120802, 120812, 120822, 123200, 123632, 125264, 130032]

/-- The value of a decimal digit of any script. -/
def digit? (c : Char) : Option Nat :=
  (zeroDigits.find? fun base => base ≤ c.toNat && c.toNat < base + 10).map (c.toNat - ·)

/-- The number that the decimal digits at the start of some characters are, if there are any, and
what follows them. -/
def leadingNumber (cs : List Char) : Option Nat × List Char :=
  let ds := cs.takeWhile fun c => (digit? c).isSome
  if ds.isEmpty then (none, cs)
  else (some (ds.foldl (fun n c => 10 * n + (digit? c).getD 0) 0), cs.drop ds.length)

/-- The blanks, by code point. -/
def blanks : List Nat :=
  [9, 10, 11, 12, 13, 32, 133, 160, 5760, 8192, 8193, 8194, 8195, 8196, 8197, 8198, 8199, 8200,
   8201, 8202, 8232, 8233, 8239, 8287, 12288]

/-- Whether a character may stand around an integer. -/
def isBlank (c : Char) : Bool :=
  blanks.contains c.toNat

/-- The value of a letter as a digit: ten and on. -/
def letterValue? (c : Char) : Option Nat :=
  if 'a' ≤ c && c ≤ 'z' then some (c.toNat - 'a'.toNat + 10)
  else if 'A' ≤ c && c ≤ 'Z' then some (c.toNat - 'A'.toNat + 10)
  else none

/-- The value of a digit of a base. -/
def digitOf? (base : Nat) (c : Char) : Option Nat :=
  ((digit? c).orElse fun _ => letterValue? c).filter fun d => d < base

/-! ## Numerals -/

/-- The characters without the blanks at both ends. -/
def trimBlanks (cs : List Char) : List Char :=
  ((cs.dropWhile isBlank).reverse.dropWhile isBlank).reverse

/-- Reads on after a digit: digits, with at most one underscore before each. -/
def readDigits (base : Nat) : (value : Nat) → List Char → Option Nat
  | value, [] => some value
  | _, ['_'] => none
  | value, '_' :: c :: cs => (digitOf? base c).bind fun d => readDigits base (base * value + d) cs
  | value, c :: cs => (digitOf? base c).bind fun d => readDigits base (base * value + d) cs

/-- Reads a natural number: a digit and what may follow it. -/
def readNatural? (base : Nat) : List Char → Option Nat
  | [] => none
  | c :: cs => (digitOf? base c).bind fun d => readDigits base d cs

/-- Reads a sign and what follows it. -/
def readSigned? (read : List Char → Option Nat) : List Char → Option Int
  | '-' :: cs => (read cs).map fun n => -(n : Int)
  | '+' :: cs => (read cs).map fun n => (n : Int)
  | cs => (read cs).map fun n => (n : Int)

/-- The most digits that are read or written. -/
def maxDigits : Nat := 4300

/-- The first whole number that has too many digits to be written. -/
def tooLong : Nat :=
  tenPow maxDigits

/-- What is said of a numeral that is too long; `digits` says how long it is, if that is known. -/
def tooManyDigits (digits : String) : String :=
  "Exceeds the limit (4300 digits) for integer string conversion" ++ digits
    ++ "; use sys.set_int_max_str_digits() to increase the limit"

/-- How many digits the characters hold. -/
def countDigits (cs : List Char) : Nat :=
  cs.countP fun c => (digit? c).isSome

/-- Reads an integer written by hand. -/
def readInteger? (text : String) : Option Int :=
  let cs := trimBlanks text.toList
  if countDigits cs ≤ maxDigits then readSigned? (readNatural? 10) cs else none

/-! ## Other bases -/

/-- The base that a letter after a leading zero stands for. -/
def markedBase? (c : Char) : Option Nat :=
  match c with
  | 'x' | 'X' => some 16
  | 'o' | 'O' => some 8
  | 'b' | 'B' => some 2
  | _ => none

/-- Reads digits after the mark of a base; an underscore may stand between them. -/
def readMarked? (base : Nat) : List Char → Option Nat
  | '_' :: cs | cs => readNatural? base cs

/-- Reads a natural number of a base, with or without its mark. Base zero takes the base from the
mark, and ten without one; then no other number starts with a zero. -/
def readBased? (base : Nat) (cs : List Char) : Option Nat :=
  let marked := match cs with
    | '0' :: c :: rest =>
      ((markedBase? c).filter fun b => base == 0 || base == b).bind fun b => readMarked? b rest
    | _ => none
  marked.orElse fun _ =>
    if base == 0 then
      (readNatural? 10 cs).filter fun n => n == 0 || cs.head? != some '0'
    else readNatural? base cs

/-- Reads an integer of a base written by hand. -/
def readIntegerIn? (base : Nat) (text : String) : Option Int :=
  readSigned? (readBased? base) (trimBlanks text.toList)

end StubClass.Number
