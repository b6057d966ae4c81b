import StubClass.Number.Binary
import StubClass.Value

set_option autoImplicit false

/-! # Equality and hashing of values

Two values are equal when they have the same content: numbers by their exact magnitude, whatever
their types, with truth values counting as zero and one; texts by their characters, symbols among
them; lists and tuples part by part; dictionaries entry by entry in any order. What is not a number
is equal to nothing, itself included.

A value can be hashed unless a list or a dictionary is found in it through tuples. -/

namespace StubClass

/-! ## Numbers -/

/-- The exact magnitude of a number. -/
inductive Numeric where
  | notANumber
  | infinite (negative : Bool)
  | finite (value : Dyadic)
deriving DecidableEq

namespace Numeric

/-- The magnitude of a floating point number. -/
def ofFloat (x : Float) : Numeric :=
  match Number.read x with
  | .notANumber => notANumber
  | .infinite negative => infinite negative
  | .finite negative m =>
    let significand : Int := if negative then -m.significand else m.significand
    finite (Dyadic.ofIntWithPrec significand (-m.exponent))

/-- Whether two magnitudes are the same number. -/
def same : Numeric → Numeric → Bool
  | notANumber, _ => false
  | a, b => decide (a = b)

end Numeric

namespace Value

/-- The magnitude of a value that is a number. -/
def numeric? : Value → Option Numeric
  | bool b => some (.finite (if b then 1 else 0))
  | int n => some (.finite (Dyadic.ofIntWithPrec n 0))
  | float x => some (.ofFloat x)
  | _ => none

/-! ## Equality -/

/-- Whether two values without parts are equal. -/
def equalLeaf (x y : Value) : Bool :=
  match x.numeric?, y.numeric? with
  | some a, some b => a.same b
  | none, none =>
    match x.text?, y.text? with
    | some s, some t => s == t
    | none, none =>
      match x, y with
      | null, null => true
      | bytes bs, bytes cs => bs == cs
      | type t, type u => t == u
      | kind k, kind l => k == l
      | visibility v, visibility w => v == w
      | _, _ => false
    | _, _ => false
  | _, _ => false

mutual

/-- Whether two values are equal. -/
def equal : Value → Value → Bool
  | list xs, y => match y with
    | list ys => equalAll xs ys
    | _ => false
  | tuple xs, y => match y with
    | tuple ys => equalAll xs ys
    | _ => false
  | dict es, y => match y with
    | dict fs => es.length == fs.length && entriesIn es fs
    | _ => false
  | null, y => equalLeaf null y
  | bool b, y => equalLeaf (bool b) y
  | int n, y => equalLeaf (int n) y
  | float x, y => equalLeaf (float x) y
  | str text, y => equalLeaf (str text) y
  | symbol text, y => equalLeaf (symbol text) y
  | bytes bs, y => equalLeaf (bytes bs) y
  | type t, y => equalLeaf (type t) y
  | kind k, y => equalLeaf (kind k) y
  | visibility v, y => equalLeaf (visibility v) y

/-- Whether two lists of values are equal part by part. -/
def equalAll : List Value → List Value → Bool
  | [], ys => ys.isEmpty
  | x :: xs, ys => match ys with
    | [] => false
    | y :: ys => x.equal y && equalAll xs ys

/-- Whether every entry of the first dictionary is one of the second. -/
def entriesIn : List (Value × Value) → List (Value × Value) → Bool
  | [], _ => true
  | entry :: es, fs => entryIn entry fs && entriesIn es fs

/-- Whether the dictionary has an entry with an equal key and an equal value. -/
def entryIn : Value × Value → List (Value × Value) → Bool
  | (key, value), fs => fs.any fun f => key.equal f.1 && value.equal f.2

end

/-! ## Hashing -/

mutual

/-- The name of the type of the first part that cannot be hashed. -/
def unhashable? : Value → Option String
  | list _ => some BuiltinType.list.name
  | dict _ => some BuiltinType.dict.name
  | tuple xs => unhashableIn? xs
  | _ => none

/-- The name of the type of the first part of several values that cannot be hashed. -/
def unhashableIn? : List Value → Option String
  | [] => none
  | x :: xs => x.unhashable?.or (unhashableIn? xs)

end

/-! ## Dictionaries -/

/-- Puts a value under a key: an equal key keeps its place and itself, a new one goes to the end. -/
def putEntry (entries : List (Value × Value)) (key value : Value) : List (Value × Value) :=
  if entries.any fun e => e.1.equal key then
    entries.map fun e => if e.1.equal key then (e.1, value) else e
  else entries ++ [(key, value)]

/-- The dictionary of the entries, put in one after another. -/
def dictOf (entries : List (Value × Value)) : Value :=
  dict (entries.foldl (fun es e => putEntry es e.1 e.2) [])

end Value

end StubClass
