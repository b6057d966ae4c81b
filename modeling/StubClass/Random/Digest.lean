import StubClass.Number.Binary

set_option autoImplicit false

/-! # A digest of bytes

A digest of 64 bytes, worked out in words of 64 bits: the bytes are filled up to blocks of 128, and
each block is worked into eight words in eighty rounds. The words that it starts from, and those
that the rounds add, are the first bits behind the point of square and cube roots of the first
primes. -/

namespace StubClass.Random.Digest

/-! ## Constants -/

/-- The greatest number whose power of a degree, 2 or 3, is not above a number of less than 240
bits. -/
def root (degree n : Nat) : Nat :=
  (List.range 120).foldl (fun r i =>
    let s := r + Number.twoPow (119 - i)
    let power := if degree == 2 then s * s else s * s * s
    if power ≤ n then s else r) 0

/-- The first eighty primes. -/
def primes : List Nat :=
  (List.range 410).filter fun n =>
    2 ≤ n && (List.range n).all fun d => d < 2 || n % d != 0

/-- The first 64 bits behind the point of the root of a number. -/
def fractionOfRoot (degree n : Nat) : UInt64 :=
  UInt64.ofNat (root degree (n * Number.twoPow (64 * degree)))

/-- What the rounds add. -/
def additions : Array UInt64 :=
  (primes.map (fractionOfRoot 3)).toArray

/-- The words that the digest starts from. -/
def start : List UInt64 :=
  (primes.take 8).map (fractionOfRoot 2)

/-! ## Blocks -/

/-- The bytes of a number, the most significant first. -/
def bytesOf (width n : Nat) : List UInt8 :=
  ((List.range width).map fun i => UInt8.ofNat (n >>> (8 * i))).reverse

/-- Bytes filled up to whole blocks; their number of bits stands at the end. -/
def filled (bs : List UInt8) : List UInt8 :=
  let rest := (bs.length + 17) % 128
  bs ++ 0x80 :: List.replicate ((128 - rest) % 128) 0 ++ bytesOf 16 (8 * bs.length)

/-- The words of bytes; `count` is how many there are. -/
def wordsOf : (count : Nat) → List UInt8 → List UInt64
  | 0, _ => []
  | count + 1, bs =>
    (bs.take 8).foldl (fun w b => w * 256 + UInt64.ofNat b.toNat) 0 :: wordsOf count (bs.drop 8)

/-- A word turned to the right. -/
def turned (w : UInt64) (n : Nat) : UInt64 :=
  (w >>> UInt64.ofNat n) ||| (w <<< UInt64.ofNat (64 - n))

/-- The words of a block with those that follow from them. -/
def schedule (block : List UInt64) : Array UInt64 :=
  (List.range 64).foldl (fun ws i =>
    let a := ws.getD (i + 1) 0
    let b := ws.getD (i + 14) 0
    let x := turned a 1 ^^^ turned a 8 ^^^ (a >>> 7)
    let y := turned b 19 ^^^ turned b 61 ^^^ (b >>> 6)
    ws.push (ws.getD i 0 + x + ws.getD (i + 9) 0 + y)) block.toArray

/-- The eight words of the digest. -/
abbrev State := List UInt64

/-- A round. -/
def round (s : State) (word addition : UInt64) : State :=
  match s with
  | [a, b, c, d, e, f, g, h] =>
    let x := turned e 14 ^^^ turned e 18 ^^^ turned e 41
    let choice := (e &&& f) ^^^ (~~~e &&& g)
    let first := h + x + choice + addition + word
    let y := turned a 28 ^^^ turned a 34 ^^^ turned a 39
    let majority := (a &&& b) ^^^ (a &&& c) ^^^ (b &&& c)
    [first + y + majority, a, b, c, d + first, e, f, g]
  | s => s

/-- The words after a block. -/
def absorb (s : State) (block : List UInt64) : State :=
  let after := (schedule block).toList.zip additions.toList |>.foldl (fun s w => round s w.1 w.2) s
  List.zipWith (· + ·) s after

/-- The words after so many blocks. -/
def absorbAll : (count : Nat) → State → List UInt64 → State
  | 0, s, _ => s
  | count + 1, s, ws => absorbAll count (absorb s (ws.take 16)) (ws.drop 16)

/-- The digest of bytes. -/
def of (bs : List UInt8) : List UInt8 :=
  let all := filled bs
  let ws := wordsOf (all.length / 8) all
  (absorbAll (ws.length / 16) start ws).flatMap fun w => bytesOf 8 w.toNat

end StubClass.Random.Digest
