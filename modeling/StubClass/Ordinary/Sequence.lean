import StubClass.Ordinary.Template

set_option autoImplicit false

/-! # Sequences

What texts, bytes, lists and tuples have in common: parts by their numbers, which may be counted
from behind, parts that are looked for by their equality, sequences put together and repeated, and
their order, which is that of the first parts that differ. -/

namespace StubClass

/-! ## Looking for parts -/

/-- The first number from one on under which an equal object stands. -/
def findEqual? (x : Obj) : (index : Nat) → List Obj → Run (Option Nat)
  | _, [] => return none
  | index, y :: ys => do
    if ← isSame y x then return some index else findEqual? x (index + 1) ys

/-- How many objects are equal to one. -/
def countEqual (x : Obj) : List Obj → Run Nat
  | [] => return 0
  | y :: ys => do
    let here ← isSame y x
    let more ← countEqual x ys
    return if here then more + 1 else more

/-- Where an object stands. -/
def indexIn (function : String) (isList : Bool) (xs : List Obj) (a : Operands) : Run Obj := do
  match ← takeBetween function "index" 1 3 a with
  | x :: ends =>
    let ends ← ends.mapM (endOf "")
    let start := (ends[0]?).getD 0
    let found ← match Text.stretch? xs start ends[1]? with
      | some (first, part) => findEqual? x first part
      | none => pure none
    match found with
    | some i => newInt i
    | none =>
      if isList then failWith .badValue x (· ++ " is not in list")
      else throw (.badValue "tuple.index(x): x not in tuple")
  | [] => return .none

/-! ## Parts by number -/

/-- The number of a part, as an index of a sequence. -/
def partNumber (refusal : String) (x : Obj) : Run Int := do
  let w ← get
  if (w.whole? x).isNone && (w.special? x "__index__").isNone then throw (.badType refusal)
  else
    let n ← indexOf x
    if Value.isSize n then return n
    else
      throw (.ordinary .badIndex ("cannot fit '" ++ w.clippedTitle x
        ++ "' into an index-sized integer"))

/-- The place that a number stands for among so many parts, if it stands for one. -/
def placeAmong? (length : Nat) (index : Int) : Option Nat :=
  let i := if index < 0 then index + length else index
  if 0 ≤ i && i < length then some i.toNat else none

/-- The part of a sequence under an index. -/
def partAt {α : Type} (which : String) (xs : List α) (index : Int) : Run α :=
  match (placeAmong? xs.length index).bind fun i => xs[i]? with
  | some x => return x
  | none => throw (.ordinary .badIndex (which ++ " out of range"))

/-- What a sequence holds under an index. -/
def itemOf (x index : Obj) : Run Obj := do
  let w ← get
  let refusal (which : String) : String := which ++ ", not " ++ w.clippedTitle index
  match w.body x with
  | .str text => do
    let i ← partNumber ("string indices must be integers, not '" ++ w.clippedTitle index ++ "'")
      index
    newText (← partAt "string index" text.toList i).toString
  | .bytes bs => do
    let i ← partNumber (refusal "byte indices must be integers or slices") index
    newInt (← partAt "index" bs i).toNat
  | .tuple xs => do
    let i ← partNumber (refusal "tuple indices must be integers or slices") index
    partAt "tuple index" xs i
  | .list _ => do
    let i ← partNumber (refusal "list indices must be integers or slices") index
    partAt "list index" (((← get).parts? x).getD []) i
  | _ => return .none

/-- What may be held by bytes: bytes, or one by its number. -/
def heldBytes (x : Obj) : Run (List Char) := do
  let w ← get
  match w.body x with
  | .bytes bs => return Script.charsOf bs
  | _ =>
    if (w.whole? x).isSome || (w.special? x "__index__").isSome then bytePart x
    else
      throw (.badType ("a bytes-like object is required, not '"
        ++ Text.clip 100 (w.typeTitle x) ++ "'"))

/-- Whether a sequence holds an equal part. -/
def sequenceHolds (x y : Obj) : Run Bool := do
  match (← get).body x with
  | .str text => do
    let part ← textNeeded "'in <string>' requires string as left operand, not " y
    return (Text.firstAt? part.toList 0 text.toList).isSome
  | .bytes bs => return (Text.firstAt? (← heldBytes y) 0 (Script.charsOf bs)).isSome
  | .list xs | .tuple xs => isAmong y xs
  | _ => return false

/-! ## Putting together -/

/-- Two sequences one after the other. -/
def concatenated (x y : Obj) : Run Obj := do
  let w ← get
  let refuse (name : String) : Run Obj :=
    throw (.badType ("can only concatenate " ++ name ++ " (not \"" ++ w.clippedTitle y ++ "\") to "
      ++ name))
  match w.body x, w.body y with
  | .str s, .str t =>
    if s.isEmpty && w.isExactly y .str then return y
    else if t.isEmpty && w.isExactly x .str then return x
    else newTextApart (s ++ t)
  | .bytes s, .bytes t =>
    if s.isEmpty && w.isExactly y .bytes then return y
    else if t.isEmpty && w.isExactly x .bytes then return x
    else newBytesApart (s ++ t)
  | .list xs, .list ys => newList (xs ++ ys)
  | .tuple xs, .tuple ys =>
    if xs.isEmpty && w.isExactly y .tuple then return y
    else if ys.isEmpty && w.isExactly x .tuple then return x
    else newTuple (xs ++ ys)
  | .str _, _ => refuse "str"
  | .list _, _ => refuse "list"
  | .tuple _, _ => refuse "tuple"
  | _, _ =>
    throw (.badType ("can't concat " ++ Text.clip 100 (w.typeTitle y) ++ " to "
      ++ Text.clip 100 (w.typeTitle x)))

/-- Parts repeated, where there is room for all of them. -/
def repeatParts {α : Type} (tooLong : Failure) (n : Nat) (xs : List α) : Run (List α) :=
  let total := n * xs.length
  if Value.maxSize < total then throw tooLong
  else if Value.maxRoom < total then throw (.ordinary .memory "")
  else return (List.replicate n xs).flatten

/-- A sequence repeated so many times. -/
def repeated (x y : Obj) : Run Obj := do
  let n := (← sizeOf y).toNat
  let w ← get
  match w.body x with
  | .str text =>
    if n == 1 && w.isExactly x .str then return x
    else
      newText (String.ofList (← repeatParts (.ordinary .overflow "repeated string is too long") n
        text.toList))
  | .bytes bs =>
    if (n == 1 || bs.isEmpty) && w.isExactly x .bytes then return x
    else newBytes (← repeatParts (.ordinary .overflow "repeated bytes are too long") n bs)
  | .list xs => do newList (← repeatParts (.ordinary .memory "") n xs)
  | .tuple xs =>
    if (n == 1 || xs.isEmpty) && w.isExactly x .tuple then return x
    else newTuple (← repeatParts (.ordinary .memory "") n xs)
  | _ => return .none

/-! ## Order -/

/-- The answer of a comparison of parts: that of the first two that differ, or else that of the
numbers of parts. -/
def compareParts (c : Comparison) (xs ys : List Obj) : Run Obj := do
  match ← firstUnequal? xs ys with
  | some (x, y) =>
    match c with
    | .eq => return .bool false
    | .ne => return .bool true
    | c => compare c x y
  | none => return .bool (c.ofOrdering (Ord.compare xs.length ys.length))
where
  /-- The first two parts in the same place that differ. -/
  firstUnequal? : List Obj → List Obj → Run (Option (Obj × Obj))
    | x :: xs, y :: ys => do
      if ← isSame x y then firstUnequal? xs ys else return some (x, y)
    | _, _ => return none

/-- The answer of a comparison of sequences. -/
def sequenceComparison (c : Comparison) (x y : Obj) : Run Obj := do
  let w ← get
  match w.body x, w.body y with
  | .str s, .str t => return .bool (c.ofOrdering (compareOfLessAndEq s t))
  | .bytes s, .bytes t =>
    return .bool (c.ofOrdering (compareOfLessAndEq (s.map UInt8.toNat) (t.map UInt8.toNat)))
  | .list xs, .list ys =>
    if xs.length != ys.length && c == .eq then return .bool false
    else if xs.length != ys.length && c == .ne then return .bool true
    else compareParts c xs ys
  | .tuple xs, .tuple ys => compareParts c xs ys
  | _, _ => return .unknownOperand

/-! ## Operators -/

/-- An iterator over a sequence. -/
def sequenceIterator (x : Obj) : Run Obj := do
  let w ← get
  let t : BuiltinType := match w.body x with
    | .str text =>
      let isPlain := w.isExactly x .str && text.toList.all fun c => c.toNat < 128
      if isPlain then .asciiIterator else .textIterator
    | .bytes _ => .bytesIterator
    | .tuple _ => .tupleIterator
    | _ => .listIterator
  makeOf t (.sequenceIterator (some x) 0)

/-- Calls an operator of a type of sequences. -/
def sequenceOperator (t : BuiltinType) (name : String) (x : Obj) (a : Operands) : Run Obj := do
  let w ← get
  match name with
  | "__len__" => do
    let _ ← expect name 0 a
    newInt (w.body x).partCount
  | "__iter__" => do
    let _ ← expect name 0 a
    sequenceIterator x
  | "__hash__" => do
    let _ ← expect name 0 a
    match w.body x with
    | .str text => newInt (Hash.text text).toInt
    | .bytes bs => newInt (Hash.bytes bs).toInt
    | .tuple xs => do newInt (Hash.parts "tuple" (← xs.mapM hashOf)).toInt
    | _ => return .none
  | "__str__" => do
    let _ ← expect name 0 a
    if t == .bytes then newText (← literalOf x)
    else if w.isExactly x .str then return x
    else newText ((w.text? x).getD "")
  | "__contains__" => do return .bool (← sequenceHolds x (← expectOne name a))
  | "__getitem__" => do itemOf x (← expectOne name a)
  | "__add__" => do concatenated x (← expectOne name a)
  | "__mul__" | "__rmul__" => do repeated x (← expectFactor name a)
  | "__mod__" | "__rmod__" => do
    let y ← expectOne name a
    let (x, y) := if name == "__mod__" then (x, y) else (y, x)
    match (← get).body x, t with
    | .str text, .str => fillFromOperand .text x text.toList y
    | .bytes bs, .bytes => fillFromOperand .bytes x (Script.charsOf bs) y
    | _, _ => return .unknownOperand
  | _ =>
    match Comparison.ofName? name with
    | some c => do sequenceComparison c x (← expectOne name a)
    | none => notProvided (t.name ++ "." ++ name)

/-! ## Tuples and texts -/

/-- A method of a tuple. -/
def tupleMethod (name function : String) (xs : List Obj) (a : Operands) : Run Obj := do
  match name with
  | "index" => indexIn function false xs a
  | "count" => do
    let x ← takeOne function a
    newInt (← countEqual x xs)
  | "__getnewargs__" => do
    takeNone function a
    newTuple [← newTuple xs]
  | _ => notProvided function

/-- A method of a text. -/
def textMethod (name function : String) (x : Obj) (text : String) (a : Operands) : Run Obj := do
  match name with
  | "format" => fillFromCall x text a
  | "format_map" => do fillFromMapping x text (← takeOne function a)
  | "__format__" => do
    let form ← formArgument function a
    if form.isEmpty then plainOf x else textFormatted x text form
  | "encode" => do
    let (encoding, errors) ← encodingArguments name a
    encodeText text encoding errors
  | "translate" => do
    let table ← takeOne function a
    Script.text.make (← text.toList.mapM (translated table)).flatten
  | _ =>
    match caseAnswer? name text with
    | some answer => do
      takeNone function a
      newTextApart answer
    | none => commonMethod .text name function x text.toList a

end StubClass
