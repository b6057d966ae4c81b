import StubClass.Number.FloatText

set_option autoImplicit false

/-! # The Mersenne twister

A generator of 32-bit words with a state of 624 words. All that is drawn from a seed is made of its
words: numbers of a given width, numbers below a bound by drawing until one is small enough, and
fractions with 53 binary digits. -/

namespace StubClass.Random

/-- The state of the generator: its words, and how many of them have been given out. -/
structure Twister where
  words : Array UInt32
  position : Nat

namespace Twister

/-- How many words the state has. -/
def size : Nat := 624

/-! ## Seeding -/

/-- The mixture of a word and its place from which the next word is filled. -/
def mixed (w : UInt32) : UInt32 :=
  w ^^^ (w >>> 30)

/-- The words that a state starts from before a seed is worked in. -/
def baseWords : Array UInt32 :=
  (List.range (size - 1)).foldl
    (fun ws i => ws.push (1812433253 * mixed (ws.getD i 0) + UInt32.ofNat (i + 1)))
    #[19650218]

/-- The place after a place; the last word is carried to the front before the next round. -/
def advance (ws : Array UInt32) (i : Nat) : Array UInt32 × Nat :=
  if i + 1 < size then (ws, i + 1) else (ws.setIfInBounds 0 (ws.getD (size - 1) 0), 1)

/-- One step of working in the words of a key, which are used in a round. -/
def absorb (key : Array UInt32) (state : Array UInt32 × Nat) (step : Nat) :
    Array UInt32 × Nat :=
  let (ws, i) := state
  let j := step % key.size
  let w := (ws.getD i 0 ^^^ (mixed (ws.getD (i - 1) 0) * 1664525)) + key.getD j 0 + UInt32.ofNat j
  advance (ws.setIfInBounds i w) i

/-- One step of mixing the words after the key. -/
def stir (state : Array UInt32 × Nat) (_ : Nat) : Array UInt32 × Nat :=
  let (ws, i) := state
  let w := (ws.getD i 0 ^^^ (mixed (ws.getD (i - 1) 0) * 1566083941)) - UInt32.ofNat i
  advance (ws.setIfInBounds i w) i

/-- The state of a key. -/
def ofKey (key : Array UInt32) : Twister :=
  let absorbed := (List.range (max size key.size)).foldl (absorb key) (baseWords, 1)
  let (ws, _) := (List.range (size - 1)).foldl stir absorbed
  ⟨ws.setIfInBounds 0 0x80000000, size⟩

/-- The 32-bit digits of a number, the least significant first; zero has one. -/
def digits32 (n : Nat) : List UInt32 :=
  UInt32.ofNat n :: if n < 0x100000000 then [] else digits32 (n / 0x100000000)
termination_by n
decreasing_by omega

/-- The state of a seed. The sign of the seed plays no part. -/
def ofSeed (seed : Int) : Twister :=
  ofKey (digits32 seed.natAbs).toArray

/-! ## Words -/

/-- One word of the next round: the top bit of one word with the other bits of its successor, folded
into the word 397 places on. -/
def twist (ws : Array UInt32) (i : Nat) : Array UInt32 :=
  let y := (ws.getD i 0 &&& 0x80000000) ||| (ws.getD ((i + 1) % size) 0 &&& 0x7fffffff)
  let fold := (y >>> 1) ^^^ (if y &&& 1 = 1 then 0x9908b0df else 0)
  ws.setIfInBounds i (ws.getD ((i + 397) % size) 0 ^^^ fold)

/-- The words of the next round. -/
def regenerate (ws : Array UInt32) : Array UInt32 :=
  (List.range size).foldl twist ws

/-- A word of the state as it is given out. -/
def temper (w : UInt32) : UInt32 :=
  let a := w ^^^ (w >>> 11)
  let b := a ^^^ ((a <<< 7) &&& 0x9d2c5680)
  let c := b ^^^ ((b <<< 15) &&& 0xefc60000)
  c ^^^ (c >>> 18)

/-- The next word. -/
def next (t : Twister) : UInt32 × Twister :=
  if t.position < size then
    (temper (t.words.getD t.position 0), { t with position := t.position + 1 })
  else
    let ws := regenerate t.words
    (temper (ws.getD 0 0), ⟨ws, 1⟩)

/-! ## Numbers -/

/-- A number of `width` bits: whole words, the least significant first, and the top bits of a last
one. -/
def bits (width : Nat) (t : Twister) : Nat × Twister :=
  let (w, t) := t.next
  if width ≤ 32 then (w.toNat / Number.twoPow (32 - width), t)
  else
    let (high, t) := bits (width - 32) t
    (w.toNat + Number.twoPow 32 * high, t)
termination_by width

/-- How many bits a number has. -/
def bitLength (n : Nat) : Nat :=
  if n = 0 then 0 else Nat.log2 n + 1

/-- One try at a number below a bound: a number of its width, if that is small enough, or else the
generator to try again with. -/
def attempt (bound : Nat) (t : Twister) : Twister ⊕ Option (Fin bound × Twister) :=
  let made := t.bits (bitLength bound)
  if h : made.1 < bound then .inr (some (⟨made.1, h⟩, made.2)) else .inl made.2

/-- A number below a bound: it is tried until there is one. What becomes of this when there never is
one is left open. -/
def below (bound : Nat) (t : Twister) : Option (Fin bound × Twister) :=
  Id.run (repeatM (fun t => return attempt bound t) t)

theorem below_eq (bound : Nat) (t : Twister) :
    t.below bound =
      match t.attempt bound with
      | .inl t => t.below bound
      | .inr drawn => drawn := by
  rw [below, repeatM_eq_of_monadTail, repeatM.body, pure_bind]
  cases t.attempt bound <;> rfl

/-- The numerator of a fraction with 53 binary digits. -/
def fraction53 (t : Twister) : Nat × Twister :=
  let (high, t) := t.next
  let (low, t) := t.next
  (high.toNat / 32 * Number.twoPow 26 + low.toNat / 64, t)

/-- A number with its 53 leading bits kept and the rest rounded. -/
def rounded53 (n : Nat) : Nat :=
  let unit := Number.twoPow (bitLength n - 53)
  Number.roundEven n unit * unit

/-- A number below `count`: a fraction times `count`, rounded as a floating point number, without
its fractional part. -/
def choice (count : Nat) (t : Twister) : Nat × Twister :=
  let (f, t) := t.fraction53
  (rounded53 (f * count) / Number.twoPow 53, t)

end Twister

end StubClass.Random
