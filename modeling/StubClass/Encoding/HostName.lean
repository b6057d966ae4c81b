import StubClass.Encoding.Unicode
import StubClass.Text.Category

set_option autoImplicit false

/-! # Names of hosts

An encoding that writes characters by where they are put into the characters of ASCII among them: in
the order of their code points, each by how far it is from the one before, as a number with digits
of changing weight. The parts of the name of a host are written so, after a mark of their own. -/

namespace StubClass.Encoding.HostName

/-! ## Numbers of changing weight -/

/-- The digits, in the order of their values. -/
def digits : List Char :=
  "abcdefghijklmnopqrstuvwxyz0123456789".toList

/-- The least value of a digit that is not the last one. -/
def threshold (index bias : Nat) : Nat :=
  max 1 (min 26 (36 * (index + 1) - bias))

/-- The bias after a number; `count` is how many characters there are then. -/
def adapted (delta : Nat) (isFirst : Bool) (count : Nat) : Nat :=
  let delta := if isFirst then delta / 700 else delta / 2
  reduce 64 (delta + delta / count) 0
where
  /-- The bias once the number is small; `fuel` bounds how often it is divided. -/
  reduce : (fuel delta divisions : Nat) → Nat
    | 0, _, divisions => divisions
    | fuel + 1, delta, divisions =>
      if 455 < delta then reduce fuel (delta / 35) (divisions + 36)
      else divisions + 36 * delta / (delta + 38)

/-- A number in digits from one on; `fuel` bounds how many there are. -/
def numeral (bias : Nat) : (fuel index n : Nat) → List Char
  | 0, _, _ => []
  | fuel + 1, index, n =>
    let t := threshold index bias
    if n < t then [digits.getD n 'a']
    else
      digits.getD (t + (n - t) % (36 - t)) 'a' ::
        numeral bias fuel (index + 1) ((n - t) / (36 - t))

/-! ## Writing -/

/-- Where the writing stands: the digits written, the bias, how many numbers there are, and how far
it is from the character before. -/
structure Distance where
  written : List Char := []
  bias : Nat := 72
  count : Nat := 0
  delta : Nat := 0

/-- The distances to one character wherever it stands among those that are not beyond it. -/
def writeAmong (base : Nat) (c : Char) (d : Distance) : List Char → Distance
  | [] => d
  | x :: xs =>
    if x.toNat < c.toNat then writeAmong base c { d with delta := d.delta + 1 } xs
    else if x == c then
      writeAmong base c
        { written := d.written ++ numeral d.bias 64 0 d.delta
          bias := adapted d.delta (d.count == 0) (base + d.count + 1)
          count := d.count + 1, delta := 0 } xs
    else writeAmong base c d xs

/-- The distances to all characters of a list, in ascending order; `before` is the code point before
them. -/
def writeAll (base : Nat) (whole : List Char) : (before : Nat) → Distance → List Char → Distance
  | _, d, [] => d
  | before, d, c :: cs =>
    let smaller := whole.countP fun x => x.toNat < c.toNat
    let d := { d with delta := d.delta + (c.toNat - before) * (smaller + 1) }
    let d := writeAmong base c d whole
    writeAll base whole (c.toNat + 1) { d with delta := d.delta + 1 } cs

/-- The bytes of a text. -/
def write (cs : List Char) : List UInt8 :=
  let plain := cs.filter fun c => c.toNat < 128
  let others :=
    ((cs.filter fun c => 128 ≤ c.toNat).eraseDups).mergeSort fun a b => a.toNat ≤ b.toNat
  let d := writeAll plain.length cs 128 {} others
  writeBytes (plain ++ (if plain.isEmpty then [] else ['-']) ++ d.written)

/-! ## Reading -/

/-- The value of a digit, large or small. -/
def value? (c : Char) : Option Nat :=
  if 'A' ≤ c && c ≤ 'Z' then some (c.toNat - 'A'.toNat)
  else if '0' ≤ c && c ≤ '9' then some (c.toNat - '0'.toNat + 26)
  else none

/-- A number and what stands behind it, or nothing if that is passed over. -/
def readNumber (isStrict : Bool) (bias : Nat) : (index weight n : Nat) → List Char →
    Except Fault (Option (Nat × List Char))
  | _, _, _, [] =>
    if isStrict then .error (.malformed "incomplete punicode string") else .ok none
  | index, weight, n, c :: cs =>
    match value? c with
    | none =>
      if isStrict then .error (.malformed ("Invalid extended code point '" ++ c.toString ++ "'"))
      else .ok none
    | some d =>
      let t := threshold index bias
      let n := n + d * weight
      if d < t then .ok (some (n, cs))
      else readNumber isStrict bias (index + 1) (weight * (36 - t)) n cs

/-- Puts characters into a text by their distances; `place` is where the next one would come, and
`fuel` bounds how many there are. -/
def readAll (isStrict : Bool) : (fuel : Nat) → (isFirst : Bool) → (code place bias : Nat) →
    (text digits : List Char) → Except Fault (List Char)
  | 0, _, _, _, _, text, _ | _, _, _, _, _, text, [] => .ok text
  | fuel + 1, isFirst, code, place, bias, text, ds => do
    match ← readNumber isStrict bias 0 1 0 ds with
    | none => return text
    | some (delta, rest) =>
      let count := text.length + 1
      let place := place + delta
      let code := code + place / count
      if 0x110000 ≤ code && isStrict then
        throw (.malformed ("Invalid character U+" ++ String.ofList (Nat.toDigits 16 code)))
      else
        let code := if 0x110000 ≤ code then '?'.toNat else code
        let place := place % count
        let text := text.take place ++ Char.ofNat code :: text.drop place
        readAll isStrict fuel false code (place + 1) (adapted delta isFirst text.length) text rest

/-- Reads bytes that have to be ASCII. -/
def readPlain (word : String) : List UInt8 → Except Fault (List Char) :=
  readBy "ascii" word fun bs =>
    match bs with
    | b :: _ =>
      if b.toNat < 128 then .characters [Char.ofNat b.toNat] 1
      else .fault 1 "ordinal not in range(128)"
    | [] => .characters [] 0

/-- Reads bytes. -/
def read (word : String) (bs : List UInt8) : Except Fault (List Char) := do
  if !(["strict", "replace", "ignore"].contains word) then
    throw (.malformed ("Unsupported error handling " ++ word))
  else
    let behind := (bs.reverse.takeWhile (· != 45)).reverse
    let base := bs.take (bs.length - behind.length - 1)
    let base ← if behind.length == bs.length then pure [] else readPlain word base
    let ds ← readPlain "strict" behind
    readAll (word == "strict") bs.length true 128 0 72 base (ds.map Char.toUpper)

/-! ## Parts of names -/

/-- The mark of a part that is not plain. -/
def partMark : List UInt8 :=
  writeBytes "xn--".toList

/-- A part with the letters that it is compared by. -/
def prepared (cs : List Char) : List Char :=
  (Text.foldedText (String.ofList (cs.filter (· != '\u00ad')))).toList

/-- A part that may not be empty or too long. -/
def sized (bs : List UInt8) : Except Fault (List UInt8) :=
  if 0 < bs.length && bs.length < 64 then .ok bs
  else .error (.malformed "label empty or too long")

/-- The bytes of a part. -/
def writePart (cs : List Char) : Except Fault (List UInt8) :=
  let isPlain (cs : List Char) : Bool := cs.all fun c => c.toNat < 128
  if isPlain cs then sized (writeBytes cs)
  else
    let cs := prepared cs
    if isPlain cs then sized (writeBytes cs)
    else if partMark.isPrefixOf (writeBytes cs) then
      .error (.malformed "Label starts with ACE prefix")
    else sized (partMark ++ write cs)

/-- The parts of a list between those that a test is true of. -/
def split {α : Type} (isDot : α → Bool) : List α → List (List α)
  | [] => [[]]
  | x :: xs =>
    match split isDot xs with
    | part :: parts => if isDot x then [] :: part :: parts else (x :: part) :: parts
    | [] => [[x]]

/-- The bytes of the name of a host. -/
def writeName (word : String) (cs : List Char) : Except Fault (List UInt8) := do
  if word != "strict" then throw (.malformed ("unsupported error handling " ++ word))
  else if cs.all fun c => c.toNat < 128 then do
    let parts := split (· == '.') cs
    for part in parts.dropLast do
      let _ ← sized (writeBytes part)
    if 64 ≤ (parts.getLastD []).length then throw (.malformed "label too long")
    return writeBytes cs
  else do
    let parts := split ['.', '\u3002', '\uff0e', '\uff61'].contains cs
    let isDotted := (parts.getLastD []).isEmpty
    let written ← (if isDotted then parts.dropLast else parts).mapM writePart
    return List.intercalate [46] written ++ (if isDotted then [46] else [])

/-- Reads a part of a name. -/
def readPart (bs : List UInt8) : Except Fault (List Char) := do
  if !partMark.isPrefixOf bs then readPlain "strict" bs
  else
    let cs ← read "strict" (bs.drop partMark.length)
    let again ← writePart cs
    if (bs.map fun b => (Char.ofNat b.toNat).toLower) != again.map fun b => Char.ofNat b.toNat then
      throw (.malformed "IDNA does not round-trip")
    else return cs

/-- Reads the name of a host. -/
def readName (word : String) (bs : List UInt8) : Except Fault (List Char) := do
  if word != "strict" then throw (.malformed ("Unsupported error handling " ++ word))
  else
    let parts := split (· == 46) bs
    let isDotted := (parts.getLastD []).isEmpty
    let read ← (if isDotted then parts.dropLast else parts).mapM readPart
    return List.intercalate ['.'] read ++ (if isDotted then ['.'] else [])

end StubClass.Encoding.HostName
