import StubClass.Encoding.Unicode

set_option autoImplicit false

/-! # Text shifted into letters and digits

An encoding in units of 7 bits: most characters of ASCII stand for themselves, and all others in
stretches that start with a plus sign, where six bits of their units of 16 bits make one letter,
digit, plus sign or slash. A minus sign ends a stretch and is not read, any other character ends it
and is; a plus sign with a minus sign behind it is a plus sign. -/

namespace StubClass.Encoding.Shifted

/-! ## Digits -/

/-- The digits of stretches, in the order of their values. -/
def digits : List Char :=
  "ABCDEFGHIJKLMNOPQRSTUVWXYZabcdefghijklmnopqrstuvwxyz0123456789+/".toList

/-- The digit of a value. -/
def digit (n : Nat) : UInt8 :=
  UInt8.ofNat (digits.getD n 'A').toNat

/-- The value of a digit. -/
def value? (b : UInt8) : Option Nat :=
  digits.findIdx? fun c => c.toNat == b.toNat

/-- Whether a character stands for itself. -/
def isDirect (c : Char) : Bool :=
  (0x20 ≤ c.toNat && c.toNat < 0x7E && c != '+' && c != '\\') || ['\t', '\n', '\r'].contains c

/-! ## Writing -/

/-- Bits, the most significant of a unit first. -/
def bitsOf (unit : Nat) : List Bool :=
  (List.range 16).map fun i => unit.testBit (15 - i)

/-- Bits as digits, six to a digit; `fuel` bounds how many there are. -/
def digitsOf : (fuel : Nat) → List Bool → List UInt8
  | 0, _ | _, [] => []
  | fuel + 1, bits =>
    let six := (bits ++ List.replicate 6 false).take 6
    digit (six.foldl (fun n b => 2 * n + b.toNat) 0) :: digitsOf fuel (bits.drop 6)

/-- A stretch of characters that do not stand for themselves. -/
def stretch (cs : List Char) : List UInt8 :=
  let bits := (cs.flatMap pairOf).flatMap bitsOf
  digitsOf bits.length bits

/-- The bytes of a text; `fuel` bounds how many characters there are. -/
def writeFrom : (fuel : Nat) → List Char → List UInt8
  | 0, _ | _, [] => []
  | fuel + 1, c :: cs =>
    if c == '+' then 43 :: 45 :: writeFrom fuel cs
    else if isDirect c then UInt8.ofNat c.toNat :: writeFrom fuel cs
    else
      let inner := c :: cs.takeWhile fun d => !isDirect d
      let rest := (c :: cs).drop inner.length
      let needsEnd := match rest with
        | [] => true
        | d :: _ => digits.contains d || d == '-'
      43 :: stretch inner ++ (if needsEnd then [45] else []) ++ writeFrom fuel rest

/-- The bytes of a text. -/
def write (cs : List Char) : List UInt8 :=
  writeFrom cs.length cs

/-! ## Reading -/

/-- Where the reading of a stretch stands. -/
structure Shift where
  /-- The place of the plus sign. -/
  start : Nat
  /-- How many bits are left over. -/
  count : Nat
  /-- The bits that are left over, as a number. -/
  bits : Nat
  /-- The first half of a pair. -/
  half : Option Nat

/-- A stretch after another digit, with the characters that are whole now. -/
def Shift.push (s : Shift) (value : Nat) : Shift × List Char :=
  let bits := 64 * s.bits + value
  let count := s.count + 6
  if count < 16 then ({ s with bits, count }, [])
  else
    let unit := bits >>> (count - 16)
    let s := { s with bits := bits % (1 <<< (count - 16)), count := count - 16 }
    match s.half with
    | some half =>
      if closesPair unit then ({ s with half := none }, characterOf (joined half unit))
      else after s unit
    | none => after s unit
where
  /-- The stretch after a unit that closes no pair. -/
  after (s : Shift) (unit : Nat) : Shift × List Char :=
    if opensPair unit then ({ s with half := some unit }, [])
    else ({ s with half := none }, characterOf unit)

/-- Why a stretch cannot end, if it cannot. -/
def Shift.fault? (s : Shift) : Option String :=
  if s.count == 0 then none
  else if 6 ≤ s.count then some "partial character in base64 sequence"
  else if s.bits != 0 then some "non-zero padding bits in shift sequence"
  else none

/-- Reads bytes from a place on, in a stretch or outside; `whole` are all the bytes, and `fuel`
bounds how many steps are taken. -/
def readFrom (word : String) (whole : List UInt8) : (fuel place : Nat) → Option Shift →
    List UInt8 → Except Fault (List Char)
  | 0, _, _, _ => .ok []
  | _ + 1, _, none, [] => .ok []
  | fuel + 1, _, some s, [] => do
    if s.half.isSome || 6 ≤ s.count || (0 < s.count && s.bits != 0) then
      fault fuel s.start (whole.length - s.start) "unterminated shift sequence"
    else return []
  | fuel + 1, place, some s, b :: bs =>
    match value? b with
    | some n => do
      let (s, cs) := s.push n
      return cs ++ (← readFrom word whole fuel (place + 1) (some s) bs)
    | none =>
      match s.fault? with
      | some reason => fault fuel s.start (place + 1 - s.start) reason
      | none =>
        if b == 45 then readFrom word whole fuel (place + 1) none bs
        else readFrom word whole fuel place none (b :: bs)
  | fuel + 1, place, none, b :: bs =>
    if b == 43 then
      match bs with
      | c :: rest =>
        if c == 45 then return '+' :: (← readFrom word whole fuel (place + 2) none rest)
        else if (value? c).isNone then fault fuel place 2 "ill-formed sequence"
        else readFrom word whole fuel (place + 1) (some ⟨place, 0, 0, none⟩) bs
      | [] => readFrom word whole fuel (place + 1) (some ⟨place, 0, 0, none⟩) bs
    else if b.toNat < 0x80 then
      return Char.ofNat b.toNat :: (← readFrom word whole fuel (place + 1) none bs)
    else fault fuel place 1 "unexpected special character"
where
  /-- What becomes of bytes at fault, and of those behind them. -/
  fault (fuel place count : Nat) (reason : String) : Except Fault (List Char) := do
    let bs := (whole.drop place).take count
    let handling ← Handling.ofWord word
    let cs ← handling.read
      (.unreadable "utf7" (bs.headD 0) place (place + count - 1) reason) bs
    return cs ++ (← readFrom word whole fuel (place + count) none (whole.drop (place + count)))

/-- Reads bytes. -/
def read (word : String) (bs : List UInt8) : Except Fault (List Char) :=
  readFrom word bs (2 * bs.length + 2) 0 none bs

end StubClass.Encoding.Shifted
