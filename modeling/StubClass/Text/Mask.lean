set_option autoImplicit false

/-! # Masked addresses

Where a text tells where in memory an object is, the address says nothing about the object, and
differs from one time to the next. It is masked: its first digit is replaced by a question mark and
the others are left out. -/

namespace StubClass.Text

/-- What stands before an address. -/
def addressMark : List Char :=
  " at 0x".toList

/-- Whether a character is a digit of an address. -/
def isAddressDigit (c : Char) : Bool :=
  c.isDigit || ('a' ≤ c && c ≤ 'f') || ('A' ≤ c && c ≤ 'F')

/-- Characters that start with the digits of an address, if they do, with these masked. -/
def maskDigits (cs : List Char) : List Char :=
  if (cs.head?).any isAddressDigit then '?' :: cs.dropWhile isAddressDigit else cs

/-- Masks the addresses in characters: the rest behind a mark is masked at its start. -/
def maskChars : List Char → List Char
  | [] => []
  | c :: cs =>
    let rest := maskChars cs
    if addressMark.isPrefixOf (c :: rest) then addressMark ++ maskDigits (rest.drop 5)
    else c :: rest

/-- A text with masked addresses. -/
def masked (text : String) : String :=
  String.ofList (maskChars text.toList)

end StubClass.Text
