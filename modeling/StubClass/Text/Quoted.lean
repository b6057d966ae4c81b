import StubClass.Text.Printable

set_option autoImplicit false

/-! # Quoted text

A text is written between quotes, so that the written form shows every character. The mark is the
apostrophe, unless the text holds an apostrophe and no double quote. Inside, the backslash and the
mark stand after a backslash, three controls have letters of their own, and a character that is not
printable is written by its code point in two, four or eight hexadecimal digits. Bytes are written
the same way, each as the ASCII character of its value or by two digits. -/

namespace StubClass.Text

/-! ## Escapes -/

/-- The last `width` hexadecimal digits of a number, the most significant first. -/
def hexDigits : (width n : Nat) → List Char
  | 0, _ => []
  | width + 1, n => hexDigits width (n / 16) ++ [Nat.digitChar (n % 16)]

/-- A character by its code point, in the shortest of the three forms that holds it. -/
def codeEscape (code : Nat) : List Char :=
  if code < 0x100 then '\\' :: 'x' :: hexDigits 2 code
  else if code < 0x10000 then '\\' :: 'u' :: hexDigits 4 code
  else '\\' :: 'U' :: hexDigits 8 code

/-- One character of a text between two `mark`s. -/
def escapeChar (mark c : Char) : List Char :=
  if c = '\\' ∨ c = mark then ['\\', c]
  else if c = '\n' then ['\\', 'n']
  else if c = '\r' then ['\\', 'r']
  else if c = '\t' then ['\\', 't']
  else if isPrintable c then [c]
  else codeEscape c.toNat

/-- One byte of a byte text between two `mark`s. -/
def escapeByte (mark : Char) (b : UInt8) : List Char :=
  let c := Char.ofNat b.toNat
  if c = '\\' ∨ c = mark then ['\\', c]
  else if c = '\n' then ['\\', 'n']
  else if c = '\r' then ['\\', 'r']
  else if c = '\t' then ['\\', 't']
  else if 0x20 ≤ b.toNat ∧ b.toNat < 0x7f then [c]
  else '\\' :: 'x' :: hexDigits 2 b.toNat

/-! ## Whole texts -/

/-- The apostrophe, the usual quotation mark. -/
def apostrophe : Char := '\x27'

/-- The double quote, the mark of texts that hold apostrophes only. -/
def doubleQuote : Char := '\x22'

/-- The mark around a text. -/
def quoteMark (cs : List Char) : Char :=
  if cs.contains apostrophe && !cs.contains doubleQuote then doubleQuote else apostrophe

/-- The text between quotes. -/
def quoted (cs : List Char) : List Char :=
  quoteMark cs :: (cs.flatMap (escapeChar (quoteMark cs)) ++ [quoteMark cs])

/-- The bytes between quotes. -/
def quotedBytes (bs : List UInt8) : List Char :=
  let mark := quoteMark (bs.map fun b => Char.ofNat b.toNat)
  mark :: (bs.flatMap (escapeByte mark) ++ [mark])

theorem quoteMark_cases (cs : List Char) :
    quoteMark cs = apostrophe ∨ quoteMark cs = doubleQuote := by
  unfold quoteMark
  split
  · exact Or.inr rfl
  · exact Or.inl rfl

end StubClass.Text
