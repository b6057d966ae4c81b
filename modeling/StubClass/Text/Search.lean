set_option autoImplicit false

/-! # Searching

Where a part stands in a list, how often without overlapping, and what is left between. Only a
stretch of the list may be searched; the ends of the stretch may be counted from behind. -/

namespace StubClass.Text

variable {α : Type} [BEq α]

/-- A place in a list, counted from the front, or from behind when it is below zero. -/
def place (length : Nat) (i : Int) : Nat :=
  if i < 0 then (i + length).toNat else i.toNat

/-- The stretch of a list between two places, with where it starts; nothing if it ends before that.
-/
def stretch? (xs : List α) (start : Int) (stop : Option Int) : Option (Nat × List α) :=
  let first := place xs.length start
  let last := match stop with
    | some i => min (place xs.length i) xs.length
    | none => xs.length
  if first ≤ last then some (first, (xs.take last).drop first) else none

/-- Where a part first stands in a list, counted from a number on. -/
def firstAt? (part : List α) : (index : Nat) → List α → Option Nat
  | index, [] => if part.isEmpty then some index else none
  | index, x :: xs =>
    if part.isPrefixOf (x :: xs) then some index else firstAt? part (index + 1) xs

/-- Where a part last stands in a list, counted from a number on. -/
def lastAt? (part : List α) : (index : Nat) → List α → Option Nat
  | index, [] => if part.isEmpty then some index else none
  | index, x :: xs =>
    (lastAt? part (index + 1) xs).orElse fun _ =>
      if part.isPrefixOf (x :: xs) then some index else none

/-- The pieces of a list between a part, found at most `most` times from the front without
overlapping; `skip` elements belong to the part before, and `piece` holds the piece so far, last
first. -/
def splitFrom (part : List α) : (most skip : Nat) → (piece : List α) → List α → List (List α)
  | _, _, piece, [] => [piece.reverse]
  | most, skip + 1, piece, _ :: xs => splitFrom part most skip piece xs
  | 0, 0, piece, x :: xs => [piece.reverse ++ x :: xs]
  | most + 1, 0, piece, x :: xs =>
    if part.isPrefixOf (x :: xs) then piece.reverse :: splitFrom part most (part.length - 1) [] xs
    else splitFrom part (most + 1) 0 (x :: piece) xs

/-- The pieces of a list between a part that is not empty, split at most so many times. -/
def splitAt (part : List α) (most : Nat) (xs : List α) : List (List α) :=
  splitFrom part most 0 [] xs

/-- How often a part stands in a list without overlapping; `skip` elements belong to the one before.
-/
def countFrom (part : List α) : (skip : Nat) → List α → Nat
  | _, [] => 0
  | skip + 1, _ :: xs => countFrom part skip xs
  | 0, x :: xs =>
    if part.isPrefixOf (x :: xs) then countFrom part (part.length - 1) xs + 1
    else countFrom part 0 xs

/-- How often a part stands in a list without overlapping; an empty part stands everywhere. -/
def occurrences (part xs : List α) : Nat :=
  if part.isEmpty then xs.length + 1 else countFrom part 0 xs

/-- The list with a part put in place of another one, at most so many times. What is put in place of
nothing goes between all elements. -/
def replace (old new : List α) (most : Nat) (xs : List α) : List α :=
  if old.isEmpty then
    if most == 0 then xs
    else
      new ++ (xs.take (most - 1)).flatMap (fun x => x :: new) ++ xs.drop (most - 1)
  else (splitAt old most xs).intersperse new |>.flatten

end StubClass.Text
