import StubClass.Object.Protocol

set_option autoImplicit false

/-! # Comparing and hashing

Two objects are compared as their classes say; the class of the second one is asked first if it is
derived from that of the first. Inside of a container one and the same object counts as equal to
itself. Keys of a table have to be hashable. -/

namespace StubClass

/-! ## Comparison -/

/-- An operator that compares. -/
inductive Comparison where
  | eq | ne | lt | le | gt | ge
deriving Repr, DecidableEq, Inhabited

namespace Comparison

/-- All operators that compare. -/
def all : List Comparison :=
  [eq, ne, lt, le, gt, ge]

/-- The name of the function of a class for an operator. -/
def name : Comparison → String
  | eq => "__eq__"
  | ne => "__ne__"
  | lt => "__lt__"
  | le => "__le__"
  | gt => "__gt__"
  | ge => "__ge__"

/-- The operator as it is written. -/
def sign : Comparison → String
  | eq => "=="
  | ne => "!="
  | lt => "<"
  | le => "<="
  | gt => ">"
  | ge => ">="

/-- The operator with its sides exchanged. -/
def swapped : Comparison → Comparison
  | lt => gt
  | le => ge
  | gt => lt
  | ge => le
  | c => c

/-- The operator of a name. -/
def ofName? (name : String) : Option Comparison :=
  all.find? fun c => c.name == name

/-- What an operator says of an order. -/
def ofOrdering (c : Comparison) (o : Ordering) : Bool :=
  match c with
  | eq => o == .eq
  | ne => o != .eq
  | lt => o == .lt
  | le => o != .gt
  | gt => o == .gt
  | ge => o != .lt

end Comparison

/-- What the class of an object says about a comparison with another one. -/
def askComparison (c : Comparison) (x y : Obj) : Run (Option Obj) := do
  match ← callSpecial? x c.name [y] with
  | some .unknownOperand | none => return none
  | some answer => return some answer

/-- The answer of the first question that has one. -/
def firstAnswer : List (Run (Option Obj)) → Run (Option Obj)
  | [] => return none
  | r :: rs => do
    match ← r with
    | some answer => return some answer
    | none => firstAnswer rs

/-- Compares two objects. -/
def compare (c : Comparison) (x y : Obj) : Run Obj := do
  let w ← get
  let direct := askComparison c x y
  let reverse := askComparison c.swapped y x
  let isSecondFirst := w.typeOf x != w.typeOf y && w.derives (w.typeOf y) (w.typeOf x)
  let questions := if isSecondFirst then [reverse, direct] else [direct, reverse]
  match ← deepIn " in comparison" (firstAnswer questions) with
  | some answer => return answer
  | none =>
    let w ← get
    match c with
    | .eq => return .bool (w.identical x y)
    | .ne => return .bool (!w.identical x y)
    | c =>
      throw (.badType ("'" ++ c.sign ++ "' not supported between instances of '"
        ++ Text.clip 100 (w.typeTitle x) ++ "' and '" ++ Text.clip 100 (w.typeTitle y) ++ "'"))

/-- Whether a comparison of two objects holds. -/
def compares (c : Comparison) (x y : Obj) : Run Bool := do
  truthOf (← compare c x y)

/-- Whether two objects are equal. -/
def isEqual (x y : Obj) : Run Bool :=
  compares .eq x y

/-- Whether two objects are one, or equal. -/
def isSame (x y : Obj) : Run Bool := do
  if (← get).identical x y then return true else isEqual x y

/-- Whether a list holds an object, or an equal one. -/
def isAmong (x : Obj) : List Obj → Run Bool
  | [] => return false
  | y :: ys => do
    if ← isSame y x then return true else isAmong x ys

/-! ## Hashing -/

/-- What whole numbers are reduced by for their hashes. -/
def hashModulus : Nat := 2305843009213693951

/-- A number that stands for a text. -/
def textNumber (cs : List Char) : Nat :=
  cs.foldl (fun n c => (n * 1114112 + c.toNat + 7) % hashModulus) 5381

/-- A whole number as its hash. -/
def reducedHash (n : Int) : Int :=
  let m : Int := (n.natAbs % hashModulus : Nat)
  let r := if n < 0 then -m else m
  if r == -1 then -2 else r

/-- The hash of a fraction whose denominator is a power of two: the numerator over it, modulo what
hashes are reduced by. There two to the power of 61 is one, so that dividing by a power of two is
multiplying by another one. -/
def fractionHash (num : Int) (den : Nat) : Int :=
  let n := num.natAbs % hashModulus * Number.twoPow (61 - den.log2 % 61) % hashModulus
  reducedHash (if num < 0 then -n else n)

/-- A whole number as an integer of 64 bits. -/
def wordOf (n : Int) : UInt64 :=
  UInt64.ofNat (n.fmod (Number.twoPow 64 : Nat)).toNat

/-- A word with its bits turned by 31 places. -/
def turned (a : UInt64) : UInt64 :=
  (a <<< 31) ||| (a >>> 33)

/-- What the hashes of parts are mixed into. -/
def mixStart : UInt64 := 2870177450012600261

/-- A hash mixed into those before it. -/
def mixed (a : UInt64) (n : Int) : UInt64 :=
  turned (a + wordOf n * 14029467366897019727) * 11400714785074694791

/-- The hash of so many parts whose hashes are mixed. -/
def mixEnd (count : Nat) (a : UInt64) : Int :=
  let n := (a + (UInt64.ofNat count ^^^ (mixStart ^^^ 3527539))).toNat
  if n == 18446744073709551615 then 1546275796
  else if n < Number.twoPow 63 then n
  else (n : Int) - (Number.twoPow 64 : Nat)

mutual

/-- The number of a hash. -/
def Hash.toInt : Hash → Int
  | .number n => n
  | .fraction num den => fractionHash num den
  | .notANumber x | .self x => (textNumber (toString (repr x)).toList : Nat)
  | .text text => if text.isEmpty then 0 else (textNumber ('t' :: text.toList) : Nat)
  | .bytes bs =>
    if bs.isEmpty then 0 else (textNumber ('b' :: bs.map fun b => Char.ofNat b.toNat) : Nat)
  | .parts sort hs =>
    if sort == "tuple" then mixEnd hs.length (mixAll mixStart hs)
    else if sort == "complex" then turnedHash hs
    else reducedHash (textNumber sort.toList + (mixAll mixStart hs).toNat)

/-- The number of the hashes of the parts of a complex number. -/
def turnedHash : List Hash → Int
  | [re, im] =>
    let n := (wordOf re.toInt + 1000003 * wordOf im.toInt).toNat
    let n : Int := if n < Number.twoPow 63 then n else (n : Int) - (Number.twoPow 64 : Nat)
    if n == -1 then -2 else n
  | _ => 0

/-- Several hashes mixed into those before them. -/
def mixAll (a : UInt64) : List Hash → UInt64
  | [] => a
  | h :: hs => mixAll (mixed a h.toInt) hs

end

/-- The hash of a floating point number. -/
def floatHash (x : Obj) (y : Float) : Hash :=
  match Number.read y with
  | .notANumber => .notANumber x
  | .infinite negative => .number (if negative then -314159 else 314159)
  | .finite negative m =>
    let signed (n : Nat) : Int := if negative then -(n : Int) else n
    if m.num % m.den == 0 then .number (reducedHash (signed (m.num / m.den)))
    else
      let d := m.num.gcd m.den
      .fraction (signed (m.num / d)) (m.den / d)

/-- The failure of an object that cannot be hashed. -/
def unhashable {α : Type} (x : Obj) : Run α := do
  throw (.badType ("unhashable type: '" ++ (← get).clippedTitle x ++ "'"))

/-- How deep tuples in one another are hashed. -/
def hashDepth : Nat := 900

/-- The hash of an object, no deeper than a number of levels. -/
def hashAt : (depth : Nat) → Obj → Run Hash
  | 0, _ => throw .tooDeep
  | depth + 1, x => do
    let w ← get
    match w.special? x "__hash__" with
    | none | some .none => unhashable x
    | some (.held t _) =>
      match t, w.body x with
      | .object, _ | .type, _ => return .self x
      | _, .int n => return .number (reducedHash n)
      | _, .float y => return floatHash x y
      | _, .complex re im =>
        return if im == 0 then floatHash x re
          else .parts "complex" [floatHash x re, floatHash x im]
      | _, .str text => return .text text
      | _, .bytes bs => return .bytes bs
      | _, .tuple xs => return .parts "tuple" (← hashAll depth xs)
      | _, .method f r => return .parts "method" (.self r :: (← hashAll depth [f]))
      | _, .builtinMethod t name r _ => return .parts (t.name ++ "." ++ name) [.self r]
      | _, .code c => return .parts "code" [.text (reprStr c.kind)]
      | _, .applied origin arguments _ =>
        return .parts "applied" (← hashAll depth [origin, arguments])
      | _, .union types => do
        let hs ← hashAll depth ((w.parts? types).getD [])
        return .parts "union" [.number (hs.foldl (fun n h => n + h.toInt) 0)]
      | _, _ => return .self x
    | some hook => do
      let answer ← callHook x hook []
      match (← get).whole? answer with
      | some n => return .number (reducedHash n)
      | none => throw (.badType "__hash__ method should return an integer")
where
  /-- The hashes of several objects. -/
  hashAll (depth : Nat) : List Obj → Run (List Hash)
    | [] => return []
    | x :: xs => do
      let h ← hashAt depth x
      return h :: (← hashAll depth xs)

/-- The hash of an object. -/
def hashOf (x : Obj) : Run Hash :=
  hashAt hashDepth x

/-! ## Tables -/

/-- What a dictionary, a set or a class holds. -/
def World.heldTable (w : World) (x : Obj) : Table :=
  match w.body x with
  | .dict t => t
  | .set s => s.entries
  | _ => w.ownTable x

/-- The table that an object is or shows. -/
def World.tableOf (w : World) (x : Obj) : Table :=
  match w.body x with
  | .dict t => t
  | .set s => s.entries
  | .view of =>
    match w.body of with
    | .view inner => w.heldTable inner
    | _ => w.heldTable of
  | .readOnly of => w.heldTable of
  | _ => []

/-- Whether an entry is that of a key with a hash. -/
def isEntryOf (h : Hash) (key : Obj) (e : Entry) : Run Bool := do
  if e.hash == h then isSame e.key key else return false

/-- The entry of a key with a hash. -/
def entryWith? (h : Hash) (key : Obj) : Table → Run (Option Entry)
  | [] => return none
  | e :: es => do
    if ← isEntryOf h key e then return some e else entryWith? h key es

/-- What stands under a key. -/
def valueUnder? (t : Table) (key : Obj) : Run (Option Obj) := do
  let h ← hashOf key
  return (← entryWith? h key t).map Entry.value

/-- Puts an object under a key with a hash: an equal key keeps its place and itself. -/
def putWith (h : Hash) (key x : Obj) : Table → Run Table
  | [] => return [⟨h, key, x⟩]
  | e :: es => do
    if ← isEntryOf h key e then return { e with value := x } :: es
    else return e :: (← putWith h key x es)

/-- Puts an object under a key. -/
def putUnder (t : Table) (key x : Obj) : Run Table := do
  putWith (← hashOf key) key x t

/-- The table without the entry of a key with a hash. -/
def dropWith (h : Hash) (key : Obj) : Table → Run Table
  | [] => return []
  | e :: es => do
    if ← isEntryOf h key e then return es else return e :: (← dropWith h key es)

/-- A table with several keys, as a set has them. -/
def putAllKeys (t : Table) : List Obj → Run Table
  | [] => return t
  | x :: xs => do
    let h ← hashOf x
    match ← entryWith? h x t with
    | some _ => putAllKeys t xs
    | none => putAllKeys (t ++ [⟨h, x, .none⟩]) xs

end StubClass
