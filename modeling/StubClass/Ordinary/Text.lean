import StubClass.Ordinary.Encoded
import StubClass.Ordinary.Reading
import StubClass.Text.Category
import StubClass.Text.Identifier
import StubClass.Text.Pieces
import StubClass.Value.Text

set_option autoImplicit false

/-! # Texts and bytes

Where a part stands in a text and how often, what stands at the ends, texts put together, taken
apart and filled up, and what sort of characters they are made of. Bytes have most of this in common
with texts: each counts as the character with its number. A stretch to search in is looked at before
what is searched for. -/

namespace StubClass

/-! ## Both sorts -/

/-- A text, or bytes. -/
inductive Script where
  | text
  | bytes
deriving Repr, DecidableEq, Inhabited

namespace Script

/-- The characters that bytes count as. -/
def charsOf (bs : List UInt8) : List Char :=
  bs.map fun b => Char.ofNat b.toNat

/-- Makes a text or bytes of characters. -/
def make (s : Script) (cs : List Char) : Run Obj :=
  match s with
  | text => newText (String.ofList cs)
  | bytes => newBytes (cs.map fun c => UInt8.ofNat c.toNat)

/-- Makes a text or bytes that stay apart. -/
def makeApart (s : Script) (cs : List Char) : Run Obj :=
  match s with
  | text => newTextApart (String.ofList cs)
  | bytes => newBytesApart (cs.map fun c => UInt8.ofNat c.toNat)

/-- Whether an object is of the type itself. -/
def isOfType (s : Script) (w : World) (x : Obj) : Bool :=
  w.isExactly x (if s == text then .str else .bytes)

/-- An object if it has just these characters and is of the type itself, or else a new one. -/
def keep (s : Script) (x : Obj) (before cs : List Char) : Run Obj := do
  if before == cs && s.isOfType (← get) x then return x else s.make cs

/-- An object if it has just these characters and is of the type itself, or else one that stays
apart. -/
def keepApart (s : Script) (x : Obj) (before cs : List Char) : Run Obj := do
  if before == cs && s.isOfType (← get) x then return x else s.makeApart cs

/-- The pieces of an object: all of it in one piece is the object itself. -/
def pieces (s : Script) (x : Obj) (cs : List Char) (parts : List (List Char)) : Run Obj := do
  if parts == [cs] then newList [← s.keep x cs cs] else newList (← parts.mapM s.make)

/-- The characters of an object; `refusal` are the words before the type of what is no text. -/
def part (s : Script) (refusal : String) (x : Obj) : Run (List Char) := do
  match s with
  | text => do return (← textNeeded refusal x).toList
  | bytes =>
    let w ← get
    match w.body x with
    | .bytes bs => return charsOf bs
    | _ => throw (.badType ("a bytes-like object is required, not '"
        ++ Text.clip 100 (w.typeTitle x) ++ "'"))

/-- The characters of an argument; `what` says which one. -/
def argument (s : Script) (what : String) (x : Obj) : Run (List Char) := do
  match s with
  | text => do return (← textArgument what x).toList
  | bytes => s.part "" x

/-- How wide the widest of some characters are kept: bytes in one place, and texts in one place, two
or four. -/
def width (s : Script) (cs : List Char) : Nat :=
  match s with
  | text =>
    if cs.all fun c => c.toNat < 256 then 1 else if cs.all fun c => c.toNat < 65536 then 2 else 4
  | bytes => 1

/-- Whether it is seen without a search that a part stands nowhere in a text. -/
def isTooSmallFor (s : Script) (cs part : List Char) : Bool :=
  s == text && (s.width cs < s.width part || cs.length < part.length)

/-- Whether a character counts as a blank between words. -/
def isSpace (s : Script) (c : Char) : Bool :=
  match s with
  | text => Number.isBlank c || (28 ≤ c.toNat && c.toNat ≤ 31)
  | bytes => c == ' ' || (9 ≤ c.toNat && c.toNat ≤ 13)

/-- Whether a character ends a line. -/
def isLineEnd (s : Script) (c : Char) : Bool :=
  match s with
  | text => Text.lineEnds.contains c
  | bytes => c == '\n' || c == '\r'

end Script

/-! ## Searches -/

/-- A search among characters. -/
def searchIn (name missing : String) (part cs : List Char) (ends : List (Option Int)) :
    Run Obj := do
  let found := Text.stretch? cs ((ends.head?.join).getD 0) (ends.drop 1).head?.join
  let isFromBehind := ["rfind", "rindex"].contains name
  match name with
  | "count" => newInt ((found.map fun s => Text.occurrences part s.2).getD 0 : Nat)
  | _ =>
    match found.bind fun s =>
        if isFromBehind then Text.lastAt? part s.1 s.2 else Text.firstAt? part s.1 s.2 with
    | some i => newInt i
    | none =>
      if ["find", "rfind"].contains name then newInt (-1)
      else throw (.badValue missing)

/-- The names of the searches. -/
def searches : List String :=
  ["count", "find", "index", "rfind", "rindex"]

/-- What is searched for in bytes: bytes, or one by its number. -/
def bytePart (x : Obj) : Run (List Char) := do
  let w ← get
  match w.body x with
  | .bytes bs => return Script.charsOf bs
  | _ =>
    if (w.whole? x).isNone && (w.special? x "__index__").isNone then
      throw (.badType ("argument should be integer or bytes-like object, not '" ++ w.clippedTitle x
        ++ "'"))
    else
      let n ← indexOf x
      if 0 ≤ n && n ≤ 255 then return [Char.ofNat n.toNat]
      else throw (.badValue "byte must be in range(0, 256)")

/-- A search of a method. -/
def searchMethod (s : Script) (name function : String) (cs : List Char) (a : Operands) :
    Run Obj := do
  let (x, ends) ← takeSearch function name a
  let ends ← ends.mapM fun e => endOrOpen? (some e)
  match s with
  | .text => do searchIn name "substring not found" (← s.part "must be str, not " x) cs ends
  | .bytes => do searchIn name "subsection not found" (← bytePart x) cs ends

/-! ## Ends -/

/-- Whether a stretch has a part at its start, or at its end. -/
def meetsEnd (isStart : Bool) (stretch part : List Char) : Bool :=
  if isStart then part.isPrefixOf stretch else part.isSuffixOf stretch

/-- Whether a text has one of several others at one of its ends; they are looked at one after
another. -/
def meetsOneOf (s : Script) (name : String) (meets : List Char → Bool) : List Obj → Run Bool
  | [] => return false
  | x :: xs => do
    let part ← s.part ("tuple for " ++ name ++ " must only contain str, not ") x
    if meets part then return true else meetsOneOf s name meets xs

/-- Whether a text has another one at its start, or at its end. -/
def endMethod (s : Script) (name function : String) (cs : List Char) (a : Operands) : Run Obj := do
  let (x, ends) ← takeSearch function name a
  let ends ← ends.mapM fun e => endOrOpen? (some e)
  let meets (part : List Char) : Bool :=
    match Text.stretch? cs ((ends.head?.join).getD 0) (ends.drop 1).head?.join with
    | some (_, stretch) => meetsEnd (name == "startswith") stretch part
    | none => false
  let w ← get
  match w.body x, s with
  | .tuple xs, _ => return .bool (← meetsOneOf s name meets xs)
  | .bytes _, .bytes | _, .text => do
    return .bool (meets (← s.part (name ++ " first arg must be str or a tuple of str, not ") x))
  | _, .bytes =>
    throw (.badType (name ++ " first arg must be bytes or a tuple of bytes, not "
      ++ Text.clip 100 (w.typeTitle x)))

/-- A text without the characters of a sort at its ends. -/
def stripMethod (s : Script) (name function : String) (x : Obj) (cs : List Char) (a : Operands) :
    Run Obj := do
  let isStripped ← match (← takeBetween function name 0 1 a).filter (· != .none), s with
    | [], _ => pure s.isSpace
    | y :: _, .text => do
      match (← get).text? y with
      | some text => pure text.toList.contains
      | none => throw (.badType (name ++ " arg must be None or str"))
    | y :: _, .bytes => do pure (← s.part "" y).contains
  let front (cs : List Char) : List Char :=
    if name == "rstrip" then cs else cs.dropWhile isStripped
  let back (cs : List Char) : List Char :=
    if name == "lstrip" then cs else (cs.reverse.dropWhile isStripped).reverse
  s.keep x cs (back (front cs))

/-- A text without another one at its start, or at its end. -/
def removeMethod (s : Script) (name function : String) (x : Obj) (cs : List Char) (a : Operands) :
    Run Obj := do
  let part ← s.argument (name ++ "() argument") (← takeOne function a)
  let n := part.length
  s.keep x cs <|
    if name == "removeprefix" then if meetsEnd true cs part then cs.drop n else cs
    else if meetsEnd false cs part then cs.take (cs.length - n) else cs

/-! ## Pieces -/

/-- How often something is done at most; below zero there is no limit. -/
def limitOf (cs : List Char) (x : Option Obj) : Run Nat := do
  let unlimited := cs.length + 2
  match x with
  | none => return unlimited
  | some x => do
    let n ← sizeArgument x
    return if n < 0 then unlimited else n.toNat

/-- A text with parts of it replaced. -/
def replaceMethod (s : Script) (function : String) (x : Obj) (cs : List Char) (a : Operands) :
    Run Obj := do
  match ← takeBetween function "replace" 2 3 a with
  | old :: new :: rest => do
    let before ← s.argument "replace() argument 1" old
    let after ← s.argument "replace() argument 2" new
    let most ← limitOf cs rest.head?
    let w ← get
    let isIdle := most == 0 || (before.isEmpty && after.isEmpty) || cs.length < before.length
      || (s == .text && w.identical old new)
      || (!before.isEmpty && (Text.firstAt? before 0 cs).isNone)
    if isIdle then s.keep x cs cs else s.makeApart (Text.replace before after most cs)
  | _ => return .none

/-- The texts of several objects, which all have to be texts; `index` is the number of the first. -/
def textItems (s : Script) : (index : Nat) → List Obj → Run (List (List Char))
  | _, [] => return []
  | index, x :: xs => do
    let w ← get
    let refuse (wanted : String) : Run (List (List Char)) :=
      throw (.badType ("sequence item " ++ counted index ++ ": expected " ++ wanted ++ ", "
        ++ Text.clip 80 (w.typeTitle x) ++ " found"))
    match s, w.body x with
    | .text, .str text => return text.toList :: (← textItems s (index + 1) xs)
    | .bytes, .bytes bs => return Script.charsOf bs :: (← textItems s (index + 1) xs)
    | .text, _ => refuse "str instance"
    | .bytes, _ => refuse "a bytes-like object"

/-- Texts with a text between them. -/
def joinMethod (s : Script) (function : String) (cs : List Char) (a : Operands) : Run Obj := do
  let x ← takeOne function a
  let xs ← elementsOr "can only join an iterable" x
  let w ← get
  match xs.filter fun y => xs.length == 1 && s.isOfType w y with
  | y :: _ => return y
  | [] => do s.makeApart (((← textItems s 0 xs).intersperse cs).flatten)

/-- The pieces of a text, counted from the front or from behind. -/
def splitMethod (s : Script) (name : String) (x : Obj) (cs : List Char) (a : Operands) :
    Run Obj := do
  let given ← passTo name ["sep", "maxsplit"] a
  let most ← limitOf cs (givenAt given 1)
  let isBehind := name == "rsplit"
  match (givenAt given 0).filter (· != .none) with
  | none =>
    let parts := if isBehind then Text.wordsFromBehind s.isSpace most cs
      else Text.words s.isSpace most (cs.length + 1) cs
    if most == 0 then newList (← parts.mapM s.make) else s.pieces x cs parts
  | some y => do
    let part ← s.part "must be str or None, not " y
    if s.isTooSmallFor cs part then newList [x]
    else if part.isEmpty then throw (.badValue "empty separator")
    else
      s.pieces x cs (if isBehind then Text.splitFromBehind part most cs
        else Text.splitAt part most cs)

/-- What stands in front of a part, the part, and what stands behind it. -/
def partitionMethod (s : Script) (name function : String) (x : Obj) (cs : List Char)
    (a : Operands) : Run Obj := do
  let y ← takeOne function a
  let part ← s.part "must be str, not " y
  if part.isEmpty then throw (.badValue "empty separator")
  else
    let isBehind := name == "rpartition"
    let empty ← s.make []
    match if isBehind then Text.lastAt? part 0 cs else Text.firstAt? part 0 cs with
    | some i => newTuple [← s.make (cs.take i), y, ← s.make (cs.drop (i + part.length))]
    | none => newTuple (if isBehind then [empty, empty, x] else [x, empty, empty])

/-- The lines of a text. -/
def linesMethod (s : Script) (x : Obj) (cs : List Char) (a : Operands) : Run Obj := do
  let given ← passTo "splitlines" ["keepends"] a
  let keeps ← match givenAt given 0 with
    | some x => do pure ((← smallArgument x) != 0)
    | none => pure false
  s.pieces x cs (Text.lines s.isLineEnd keeps [] cs)

/-! ## Filling -/

/-- The one character that a text is filled up with. -/
def fillOf (s : Script) (name : String) (x : Obj) : Run Char := do
  let w ← get
  match s, w.body x with
  | .text, .str text =>
    match text.toList with
    | [c] => return c
    | _ => throw (.badType "The fill character must be exactly one character long")
  | .text, _ =>
    throw (.badType ("The fill character must be a unicode character, not "
      ++ Text.clip 100 (w.typeTitle x)))
  | .bytes, .bytes [b] => return Char.ofNat b.toNat
  | .bytes, _ =>
    throw (.badType (name ++ "() argument 2 must be a byte string of length 1, not "
      ++ Text.clip 50 (w.typeTitle x)))

/-- A text filled up to a width. -/
def fillMethod (s : Script) (name function : String) (x : Obj) (cs : List Char) (a : Operands) :
    Run Obj := do
  match ← takeBetween function name 1 2 a with
  | [] => return .none
  | width :: rest => do
    let width := (← sizeArgument width).toNat
    requireRoom width
    let fill ← match rest with
      | y :: _ => fillOf s name y
      | [] => pure ' '
    s.keepApart x cs <|
      match name with
      | "center" => Text.centered width fill cs
      | "ljust" => Text.filledBehind width fill cs
      | _ => Text.filledBefore width fill cs

/-- A text with blanks for its tabs. -/
def expandMethod (s : Script) (x : Obj) (cs : List Char) (a : Operands) : Run Obj := do
  let given ← passTo "expandtabs" ["tabsize"] a
  let size ← match givenAt given 0 with
    | some y => smallArgument y
    | none => pure 8
  requireRoom (if cs.contains '\t' then size.toNat else 0)
  let expanded := Text.expanded size.toNat 0 cs
  if s == .text && !cs.contains '\t' then s.keep x cs cs else s.makeApart expanded

/-! ## Sorts and cases -/

/-- Whether characters are all of a sort and there is one. -/
def allOf (p : Char → Bool) (cs : List Char) : Bool :=
  !cs.isEmpty && cs.all p

/-- Whether a character is one of the letters of ASCII. -/
def isPlainLetter (isLarge : Bool) (c : Char) : Bool :=
  if isLarge then 'A' ≤ c && c ≤ 'Z' else 'a' ≤ c && c ≤ 'z'

/-- Whether characters are of the sort that a method asks for. -/
def sortAnswer? (s : Script) (name : String) (cs : List Char) : Option Bool :=
  let plain (c : Char) : Bool := c.toNat < 128
  let isLetter (c : Char) : Bool :=
    if s == .text then Text.isLetter c else isPlainLetter true c || isPlainLetter false c
  let isDecimal (c : Char) : Bool := if s == .text then Text.isDecimal c else '0' ≤ c && c ≤ '9'
  match name with
  | "isascii" => some (cs.all plain)
  | "isspace" => some (allOf s.isSpace cs)
  | "isalpha" => some (allOf isLetter cs)
  | "isdecimal" => some (allOf Text.isDecimal cs)
  | "isdigit" => some (allOf (if s == .text then Text.isDigit else isDecimal) cs)
  | "isnumeric" => some (allOf Text.isNumeral cs)
  | "isalnum" =>
    some (allOf (fun c => isLetter c || if s == .text then Text.isNumeral c else isDecimal c) cs)
  | "isupper" =>
    some (if s == .text then Text.isOfCase Text.isUpper Text.isLower cs
      else Text.isOfCase (isPlainLetter true) (isPlainLetter false) (cs.filter plain))
  | "islower" =>
    some (if s == .text then Text.isOfCase Text.isLower Text.isUpper cs
      else Text.isOfCase (isPlainLetter false) (isPlainLetter true) (cs.filter plain))
  | "istitle" =>
    some (Text.isTitled false false
      (if s == .text then cs else cs.map fun c => if plain c then c else ' '))
  | "isidentifier" => some (Text.isIdentifierShape cs)
  | "isprintable" => some (cs.all Text.isPrintable)
  | _ => none

/-- A text in another case. -/
def caseAnswer? (name text : String) : Option String :=
  match name with
  | "upper" => some (Text.upperText text)
  | "lower" => some (Text.lowerText text)
  | "capitalize" => some (Text.capitalized text)
  | "title" => some (Text.titleText text)
  | "swapcase" => some (Text.swappedText text)
  | "casefold" => some (Text.foldedText text)
  | _ => none

/-- Bytes in another case: only the letters of ASCII have one. -/
def byteCaseAnswer? (name : String) (cs : List Char) : Option (List Char) :=
  let plain := (cs.map fun c => if c.toNat < 128 then c else ' ')
  (caseAnswer? name (String.ofList plain)).map fun text =>
    (text.toList.zip cs).map fun p => if p.2.toNat < 128 then p.1 else p.2

/-! ## Translation -/

/-- What stands in a table for a character. -/
def translated (table : Obj) (c : Char) : Run (List Char) := do
  let key ← newInt c.toNat
  let isUnknown (e : Failure) : Bool := e.isA .notFound
  match ← catching isUnknown (partUnder table key) with
  | none => return [c]
  | some .none => return []
  | some x =>
    let w ← get
    match w.text? x, w.whole? x with
    | some text, _ => return text.toList
    | none, some n =>
      if 0 ≤ n && n < 0x110000 then return [Char.ofNat n.toNat]
      else throw (.badValue "character mapping must be in range(0x110000)")
    | none, none =>
      throw (.badType "character mapping must return integer, None or str")

/-- The table of a translation from two or three texts, or from a dictionary. -/
def makeTranslation (a : Operands) : Run Obj := do
  match ← takeBetween "str.maketrans" "maketrans" 1 3 a with
  | [x] =>
    match (← get).table? x with
    | none =>
      throw (.badType "if you give only one argument to maketrans it must be a dict")
    | some t => do newDict (← keyed t)
  | x :: y :: rest => do
    let y ← textArgument "maketrans() argument 2" y
    let gone ← rest.mapM (textArgument "maketrans() argument 3")
    let x ← match (← get).text? x with
      | some text => pure text
      | none =>
        throw (.badType
          "first maketrans argument must be a string if there is a second argument")
    if x.length != y.length then
      throw (.badValue "the first two maketrans arguments must have equal length")
    else
      let t ← (x.toList.zip y.toList).foldlM (fun t p => do
        putUnder t (← newInt p.1.toNat) (← newInt p.2.toNat)) []
      let t ← (gone.flatMap String.toList).foldlM (fun t c => do
        putUnder t (← newInt c.toNat) .none) t
      newDict t
  | [] => return .none
where
  /-- A table with numbers for its texts. -/
  keyed : Table → Run Table
    | [] => return []
    | e :: es => do
      let w ← get
      let key ← match w.text? e.key, w.whole? e.key with
        | some text, _ =>
          match text.toList with
          | [c] => newInt c.toNat
          | _ =>
            throw (.badValue "string keys in translate table must be of length 1")
        | none, some _ => pure e.key
        | none, none =>
          throw (.badType "keys in translate table must be strings or integers")
      return ⟨← hashOf key, key, e.value⟩ :: (← keyed es)

/-! ## Methods -/

/-- A method that texts and bytes have in common. -/
def commonMethod (s : Script) (name function : String) (x : Obj) (cs : List Char) (a : Operands) :
    Run Obj := do
  match sortAnswer? s name cs, name with
  | some answer, _ => do
    takeNone function a
    return .bool answer
  | none, "startswith" | none, "endswith" => endMethod s name function cs a
  | none, "strip" | none, "lstrip" | none, "rstrip" => stripMethod s name function x cs a
  | none, "replace" => replaceMethod s function x cs a
  | none, "join" => joinMethod s function cs a
  | none, "split" | none, "rsplit" => splitMethod s name x cs a
  | none, "splitlines" => linesMethod s x cs a
  | none, "partition" | none, "rpartition" => partitionMethod s name function x cs a
  | none, "center" | none, "ljust" | none, "rjust" => fillMethod s name function x cs a
  | none, "zfill" => do
    let width := (← sizeArgument (← takeOne function a)).toNat
    requireRoom width
    s.keepApart x cs (Text.filledWithZeros width cs)
  | none, "expandtabs" => expandMethod s x cs a
  | none, "removeprefix" | none, "removesuffix" => removeMethod s name function x cs a
  | none, "__getnewargs__" => do
    takeNone function a
    newTuple [← s.make cs]
  | none, _ =>
    if searches.contains name then searchMethod s name function cs a else notProvided function

/-- A text in a form; one that needs no filling and no cutting comes out itself. -/
def textFormatted (x : Obj) (text form : String) : Run Obj := do
  let f ← readForm x '<' (some 's') form
  let letter := f.letter.getD 's'
  if letter != 's' then unknownLetter x letter
  else if f.sign.isSome then
    throw (.badValue ((if f.sign == some ' ' then "Space" else "Sign")
      ++ " not allowed in string format specifier"))
  else if f.plainZero then
    throw (.badValue "Negative zero coercion (z) not allowed in string format specifier")
  else if f.alternate then
    throw (.badValue "Alternate form (#) not allowed in string format specifier")
  else if f.align == '=' then
    throw (.badValue "'=' alignment not allowed in string format specifier")
  else
    let cs := text.toList
    if f.width ≤ cs.length && f.precision.all fun n => cs.length ≤ n then return x
    else do
      requireRoom f.width
      let cs := match f.precision with
        | some n => cs.take n
        | none => cs
      newText (String.ofList (f.pad cs))

end StubClass
