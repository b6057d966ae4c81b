import StubClass.Number.Hexadecimal
import StubClass.Ordinary.Making

set_option autoImplicit false

/-! # Bytes

What bytes do that texts do not: they are written in hexadecimal digits and read from them, numbers
are made of them, and each can be exchanged for another one by a table of all of them. -/

namespace StubClass

/-- The bytes that an object is or gives, where a number does not stand for so many of them. -/
def bytesHeldBy (x : Obj) : Run (List UInt8) := do
  let w ← get
  match w.body x, w.special? x "__bytes__" with
  | .bytes bs, none => return bs
  | _, some _ => bytesFrom x
  | .str _, none => throw (.badType ("cannot convert '" ++ w.clippedTitle x ++ "' object to bytes"))
  | _, none =>
    match ← elements? x with
    | some xs => xs.mapM byteOf
    | none => throw (.badType ("cannot convert '" ++ w.clippedTitle x ++ "' object to bytes"))

/-- The bytes of an argument that has to be bytes. -/
def bytesArgument (x : Obj) : Run (List UInt8) := do
  let w ← get
  match w.body x with
  | .bytes bs => return bs
  | _ => throw (.badType ("a bytes-like object is required, not '"
      ++ Text.clip 100 (w.typeTitle x) ++ "'"))

/-! ## Hexadecimal digits -/

/-- The one character that stands between groups of digits. -/
def hexSeparator (x : Obj) : Run Char := do
  if (← lengthOf x) != 1 then throw (.badValue "sep must be length 1.")
  else
    let notPlain : Run Char := throw (.badValue "sep must be ASCII.")
    match (← get).body x with
    | .str text =>
      match text.toList with
      | [c] => if c.toNat < 128 then return c else notPlain
      | _ => notPlain
    | .bytes [b] => if b < 128 then return Char.ofNat b.toNat else notPlain
    | _ => throw (.badType "sep must be str or bytes.")

/-- Bytes in hexadecimal digits, with a character between groups of them. The groups are counted
from behind, or from the front if their size is below zero. -/
def hexOfBytes (bs : List UInt8) (separator : Option Char) (size : Int) : String :=
  let startsGroup (i : Nat) : Bool :=
    i != 0 && size != 0 && (if 0 < size then bs.length - i else i) % size.natAbs == 0
  String.ofList ((bs.zipIdx).flatMap fun p =>
    (if startsGroup p.2 then separator.toList else []) ++ Text.hexDigits 2 p.1.toNat)

/-- Bytes in hexadecimal digits, as a method gives them. -/
def hexMethod (bs : List UInt8) (a : Operands) : Run Obj := do
  let given ← passTo "hex" ["sep", "bytes_per_sep"] a
  let size ← match givenAt given 1 with
    | none => pure 1
    | some x => smallArgument x
  let separator ← (givenAt given 0).mapM hexSeparator
  newText (hexOfBytes bs separator size)

/-- The bytes of hexadecimal digits in pairs, with blanks between them; `index` is the number of the
first character, and what cannot be read is told by its number. -/
def bytesOfHex : (index : Nat) → List Char → Except Nat (List UInt8)
  | _, [] => .ok []
  | index, [c] =>
    if Number.isPlainBlank c then .ok []
    else .error (if (Number.hexDigit? c).isSome then index + 1 else index)
  | index, c :: d :: cs =>
    if Number.isPlainBlank c then bytesOfHex (index + 1) (d :: cs)
    else
      match Number.hexDigit? c, Number.hexDigit? d with
      | some m, some n => (bytesOfHex (index + 2) cs).map (UInt8.ofNat (16 * m + n) :: ·)
      | none, _ => .error index
      | some _, none => .error (index + 1)

/-- Bytes of a class, read from hexadecimal digits. -/
def bytesFromHex (c : Obj) (function : String) (a : Operands) : Run Obj := do
  let text ← textArgument "fromhex() argument" (← takeOne function a)
  let cs := text.toList
  let read : Except Nat (List UInt8) := match cs.findIdx? fun c => 128 ≤ c.toNat with
    | some i => .error i
    | none => bytesOfHex 0 cs
  match read with
  | .ok bs => do
    let x ← newBytes bs
    if c == .type .bytes then return x else apply c [x]
  | .error i =>
    throw (.badValue ("non-hexadecimal number found in fromhex() arg at position " ++ counted i))

/-- A floating point number of a class, read from hexadecimal digits. -/
def floatFromHex (c : Obj) (function : String) (a : Operands) : Run Obj := do
  match (← get).text? (← takeOne function a) with
  | none => throw (.badType "bad argument type for built-in operation")
  | some text =>
    match Number.readHex text with
    | .invalid => throw (.badValue "invalid hexadecimal floating-point string")
    | .tooLarge =>
      throw (.ordinary .overflow "hexadecimal value too large to represent as a float")
    | .number y => do
      let x ← newFloat y
      if c == .type .float then return x else apply c [x]

/-! ## Numbers -/

/-- A whole number of a class, made of bytes. -/
def wholeFromBytes (c : Obj) (a : Operands) : Run Obj := do
  let given ← passBetween 1 2 "from_bytes" ["bytes", "byteorder", "signed"] a
  let order ← byteOrderText "from_bytes" (givenAt given 1)
  let isSigned ← match givenAt given 2 with
    | some y => truthOf y
    | none => pure false
  let isBig ← isBigFirst order
  let bs ← bytesHeldBy ((givenAt given 0).getD .none)
  let n := natOfBytes (if isBig then bs.reverse else bs)
  let room := Number.twoPow (8 * bs.length)
  let y ← newInt (if isSigned && room ≤ 2 * n then (n : Int) - room else n)
  if c == .type .int then return y else apply c [y]

/-! ## Tables -/

/-- A table that exchanges some bytes for others. -/
def byteTable (a : Operands) : Run Obj := do
  match ← takeBetween "bytes.maketrans" "maketrans" 2 2 a with
  | [x, y] => do
    let xs ← bytesArgument x
    let ys ← bytesArgument y
    if xs.length != ys.length then
      throw (.badValue "maketrans arguments must have same length")
    else
      let exchanged := (xs.zip ys).reverse
      newBytes ((List.range 256).map fun n =>
        (exchanged.lookup (UInt8.ofNat n)).getD (UInt8.ofNat n))
  | _ => return .none

/-- Bytes without some of them, and the others exchanged by a table. -/
def translateBytes (bs : List UInt8) (x : Obj) (a : Operands) : Run Obj := do
  if a.positional.isEmpty && a.keywords.length ≤ 2 then
    throw (.badType "translate() takes at least 1 positional argument (0 given)")
  let given ← passTo "translate" ["", "delete"] a
  let table ← ((givenAt given 0).filter (· != .none)).mapM bytesArgument
  if (table.map List.length).any (· != 256) then
    throw (.badValue "translation table must be 256 characters long")
  else
    let gone ← match givenAt given 1 with
      | some y => bytesArgument y
      | none => pure []
    let kept := bs.filter fun b => !gone.contains b
    let exchanged := match table with
      | some t => kept.map fun b => t.getD b.toNat b
      | none => kept
    if exchanged == bs && (← get).isExactly x .bytes then return x else newBytesApart exchanged

/-! ## Methods -/

/-- A method of bytes. -/
def bytesMethod (name function : String) (x : Obj) (bs : List UInt8) (a : Operands) : Run Obj := do
  let cs := Script.charsOf bs
  match name, byteCaseAnswer? name cs with
  | "decode", _ => do
    let (encoding, errors) ← encodingArguments name a
    decodeBytes bs encoding errors
  | "hex", _ => hexMethod bs a
  | "translate", _ => translateBytes bs x a
  | "__bytes__", _ => do
    takeNone function a
    if (← get).isExactly x .bytes then return x else newBytes bs
  | _, some answer => do
    takeNone function a
    Script.bytes.makeApart answer
  | _, none => commonMethod .bytes name function x cs a

end StubClass
