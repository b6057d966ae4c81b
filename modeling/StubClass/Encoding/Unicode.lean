import StubClass.Encoding.Fault

set_option autoImplicit false

/-! # Unicode in bytes

The encodings that have every character: in units of 8 bits, of which a character takes one to four,
in units of 16 bits, of which it takes one or two, and in units of 32 bits. Units of more than a
byte stand with the least or with the most significant byte first, which a mark in front may say. -/

namespace StubClass.Encoding

/-! ## Units of 8 bits -/

/-- Whether a byte goes on with a character. -/
def goesOn (b : UInt8) : Bool :=
  0x80 ≤ b.toNat && b.toNat < 0xC0

/-- The character of a code point that is none of the halves of pairs. -/
def characterOf (n : Nat) : List Char :=
  [Char.ofNat n]

/-- What comes next in units of 8 bits. -/
def nextOfBytes : List UInt8 → Next
  | [] => .characters [] 0
  | a :: bs =>
    let first := a.toNat
    let rest := bs.map UInt8.toNat
    let cut := .fault (bs.length + 1) "unexpected end of data"
    let broken (count : Nat) : Next := .fault count "invalid continuation byte"
    let isSecond (b : UInt8) : Bool := goesOn b &&
      !(first == 0xE0 && b.toNat < 0xA0) && !(first == 0xED && 0xA0 ≤ b.toNat)
        && !(first == 0xF0 && b.toNat < 0x90) && !(first == 0xF4 && 0x90 ≤ b.toNat)
    let needed := if first < 0xE0 then 1 else if first < 0xF0 then 2 else 3
    let start := if first < 0xE0 then first - 0xC0 else if first < 0xF0 then first - 0xE0
      else first - 0xF0
    if first < 0x80 then .characters [Char.ofNat first] 1
    else if first < 0xC2 || 0xF5 ≤ first then .fault 1 "invalid start byte"
    else
      match bs with
      | [] => cut
      | b :: cs =>
        if !isSecond b then broken 1
        else
          let further := (cs.take (needed - 1)).takeWhile goesOn
          if further.length + 1 == needed then
            let code := (rest.take needed).foldl (fun n b => 64 * n + (b - 0x80)) start
            .characters (characterOf code) (needed + 1)
          else if further.length == cs.length then cut
          else broken (2 + further.length)

/-- The bytes of a text in units of 8 bits. -/
def writeBytes (cs : List Char) : List UInt8 :=
  cs.flatMap String.utf8EncodeChar

/-- The mark that may stand in front of units of 8 bits. -/
def byteMark : List UInt8 :=
  writeBytes ['\uFEFF']

/-! ## Longer units -/

/-- Which byte of a unit stands first. -/
inductive ByteOrder where
  | leastFirst
  | mostFirst
deriving Repr, DecidableEq, Inhabited

namespace ByteOrder

/-- The letters for an order. -/
def letters : ByteOrder → String
  | leastFirst => "le"
  | mostFirst => "be"

/-- A number in so many bytes. -/
def write (o : ByteOrder) (width n : Nat) : List UInt8 :=
  let bs := (List.range width).map fun i => UInt8.ofNat (n >>> (8 * i))
  match o with
  | leastFirst => bs
  | mostFirst => bs.reverse

/-- The number that bytes are. -/
def read (o : ByteOrder) (bs : List UInt8) : Nat :=
  let least := match o with
    | leastFirst => bs
    | mostFirst => bs.reverse
  least.foldr (fun b n => 256 * n + b.toNat) 0

end ByteOrder

/-- The units of 16 bits of a character. -/
def pairOf (c : Char) : List Nat :=
  let n := c.toNat
  if n < 0x10000 then [n]
  else [0xD800 + (n - 0x10000) / 0x400, 0xDC00 + (n - 0x10000) % 0x400]

/-- Whether a unit is the first of a pair. -/
def opensPair (n : Nat) : Bool :=
  0xD800 ≤ n && n < 0xDC00

/-- Whether a unit is the second of a pair. -/
def closesPair (n : Nat) : Bool :=
  0xDC00 ≤ n && n < 0xE000

/-- The code point of a pair. -/
def joined (first second : Nat) : Nat :=
  0x10000 + (first - 0xD800) * 0x400 + (second - 0xDC00)

/-- What comes next in units of 16 bits. -/
def nextOfPairs (o : ByteOrder) (bs : List UInt8) : Next :=
  match bs with
  | a :: b :: rest =>
    let first := o.read [a, b]
    if opensPair first then
      match rest with
      | c :: d :: _ =>
        let second := o.read [c, d]
        if closesPair second then .characters (characterOf (joined first second)) 4
        else .fault 2 "illegal UTF-16 surrogate"
      | _ => .fault bs.length "unexpected end of data"
    else if closesPair first then .fault 2 "illegal encoding"
    else .characters (characterOf first) 2
  | _ => .fault bs.length "truncated data"

/-- What comes next in units of 32 bits. -/
def nextOfWords (o : ByteOrder) (bs : List UInt8) : Next :=
  match bs with
  | a :: b :: c :: d :: _ =>
    let code := o.read [a, b, c, d]
    if 0x110000 ≤ code then .fault 4 "code point not in range(0x110000)"
    else if opensPair code || closesPair code then
      .fault 4 "code point in surrogate code point range"
    else .characters (characterOf code) 4
  | _ => .fault bs.length "truncated data"

/-- The width of longer units. -/
inductive UnitWidth where
  | pairs
  | words
deriving Repr, DecidableEq, Inhabited

namespace UnitWidth

/-- How many bytes a unit takes. -/
def bytes : UnitWidth → Nat
  | pairs => 2
  | words => 4

/-- The name of the encoding in units of a width. -/
def encoding : UnitWidth → String
  | pairs => "utf-16"
  | words => "utf-32"

/-- A text in units of a width. -/
def write (width : UnitWidth) (o : ByteOrder) (cs : List Char) : List UInt8 :=
  (match width with
    | pairs => cs.flatMap pairOf
    | words => cs.map Char.toNat).flatMap (o.write width.bytes)

/-- The mark in front of units of a width. -/
def mark (width : UnitWidth) (o : ByteOrder) : List UInt8 :=
  width.write o ['\uFEFF']

/-- Reads bytes in units of a width from a place on. -/
def read (width : UnitWidth) (o : ByteOrder) (word : String) (place : Nat) (bs : List UInt8) :
    Except Fault (List Char) :=
  let next := match width with
    | pairs => nextOfPairs o
    | words => nextOfWords o
  readFrom (width.encoding ++ "-" ++ o.letters) word next bs.length place bs

/-- Reads bytes in units of a width whose order a mark in front may say. -/
def readMarked (width : UnitWidth) (word : String) (bs : List UInt8) : Except Fault (List Char) :=
  match [ByteOrder.leastFirst, .mostFirst].find? fun o => (width.mark o).isPrefixOf bs with
  | some o => width.read o word width.bytes (bs.drop width.bytes)
  | none => width.read .leastFirst word 0 bs

end UnitWidth

end StubClass.Encoding
