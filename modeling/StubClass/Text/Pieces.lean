import StubClass.Text.Search

set_option autoImplicit false

/-! # Pieces of a text

Words, lines and pieces that a text falls into, counted from either end, and texts made longer by
filling. -/

namespace StubClass.Text

/-! ## Words -/

/-- The words of a text, at most so many before the rest of it; `length` bounds how long the text
is. -/
def words (isSpace : Char → Bool) : (most length : Nat) → List Char → List (List Char)
  | _, 0, _ => []
  | most, length + 1, cs =>
    match most, cs.dropWhile isSpace with
    | _, [] => []
    | 0, rest => [rest]
    | most + 1, rest =>
      rest.takeWhile (fun c => !isSpace c)
        :: words isSpace most length (rest.dropWhile fun c => !isSpace c)

/-- The words of a text, at most so many, counted from the end, after the rest of it. -/
def wordsFromBehind (isSpace : Char → Bool) (most : Nat) (cs : List Char) : List (List Char) :=
  ((words isSpace most (cs.length + 1) cs.reverse).map List.reverse).reverse

/-- The pieces of a text between a part that is not empty, split at most so many times, counted from
the end. -/
def splitFromBehind (part : List Char) (most : Nat) (cs : List Char) : List (List Char) :=
  ((splitAt part.reverse most cs.reverse).map List.reverse).reverse

/-! ## Lines -/

/-- The characters that end a line. -/
def lineEnds : List Char :=
  [10, 11, 12, 13, 28, 29, 30, 133, 8232, 8233].map Char.ofNat

/-- The lines of a text, with their ends where they are kept; `line` holds the line so far, last
first. -/
def lines (isEnd : Char → Bool) (keepsEnds : Bool) : (line : List Char) → List Char →
    List (List Char)
  | line, [] => if line.isEmpty then [] else [line.reverse]
  | line, '\r' :: '\n' :: cs =>
    (line.reverse ++ if keepsEnds then ['\r', '\n'] else []) :: lines isEnd keepsEnds [] cs
  | line, c :: cs =>
    if isEnd c then (line.reverse ++ if keepsEnds then [c] else []) :: lines isEnd keepsEnds [] cs
    else lines isEnd keepsEnds (c :: line) cs

/-! ## Filling -/

/-- A text in the middle of a width. -/
def centered (width : Nat) (fill : Char) (cs : List Char) : List Char :=
  let room := width - cs.length
  let before := if room % 2 == 1 && width % 2 == 1 then room / 2 + 1 else room / 2
  List.replicate before fill ++ cs ++ List.replicate (room - before) fill

/-- A text filled up behind. -/
def filledBehind (width : Nat) (fill : Char) (cs : List Char) : List Char :=
  cs ++ List.replicate (width - cs.length) fill

/-- A text filled up in front. -/
def filledBefore (width : Nat) (fill : Char) (cs : List Char) : List Char :=
  List.replicate (width - cs.length) fill ++ cs

/-- A numeral filled up with zeros after its sign. -/
def filledWithZeros (width : Nat) (cs : List Char) : List Char :=
  let zeros := List.replicate (width - cs.length) '0'
  match cs with
  | '+' :: rest => '+' :: (zeros ++ rest)
  | '-' :: rest => '-' :: (zeros ++ rest)
  | cs => zeros ++ cs

/-- A text with blanks for its tabs, up to the next column that is a multiple of a size; `column` is
where the text starts. -/
def expanded (size : Nat) : (column : Nat) → List Char → List Char
  | _, [] => []
  | column, c :: cs =>
    if c == '\t' then
      let room := if size == 0 then 0 else size - column % size
      List.replicate room ' ' ++ expanded size (column + room) cs
    else c :: expanded size (if c == '\n' || c == '\r' then 0 else column + 1) cs

end StubClass.Text
