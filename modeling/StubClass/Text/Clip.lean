set_option autoImplicit false

/-! # Clipped text

Names of types in messages are clipped: only so many bytes of their UTF-8 form are shown. Where the
cut goes through a character, a mark stands in its place. -/

namespace StubClass.Text

/-- The characters that fit into a number of bytes. -/
def clipChars : (bytes : Nat) → List Char → List Char
  | _, [] => []
  | bytes, c :: cs => if c.utf8Size ≤ bytes then c :: clipChars (bytes - c.utf8Size) cs else []

/-- The size of characters in UTF-8. -/
def byteCount (cs : List Char) : Nat :=
  cs.foldr (fun c n => c.utf8Size + n) 0

/-- The mark of a character that was cut through. -/
def cutMark : Char := '\ufffd'

/-- The start of a text that fits into a number of bytes, with a mark for a character that would
fit in part. -/
def clip (bytes : Nat) (text : String) : String :=
  let whole := clipChars bytes text.toList
  if byteCount text.toList ≤ bytes || byteCount whole == bytes then String.ofList whole
  else String.ofList (whole ++ [cutMark])

/-- The start of a text that fits into a number of bytes, without the character that would fit in
part. -/
def trim (bytes : Nat) (text : String) : String :=
  String.ofList (clipChars bytes text.toList)

end StubClass.Text
