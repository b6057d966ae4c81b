import StubClass.Object.Iteration
import StubClass.Text.Search

set_option autoImplicit false

/-! # Arguments of built-in functions

What the functions of built-in types do with their arguments before anything else. Arguments are
looked at in a fixed order: none may go by keyword where names are not known, their number has to be
right, and then each has to be of the right kind. -/

namespace StubClass

/-! ## By position -/

/-- A count as it is written in messages. -/
def counted (n : Nat) : String :=
  (Value.int n).literal

/-- The arguments of a function that takes none by keyword. -/
def byPosition (function : String) (a : Operands) : Run (List Obj) :=
  if a.keywords.isEmpty then return a.positional
  else throw (.badType (function ++ "() takes no keyword arguments"))

/-- Refuses all arguments. -/
def takeNone (function : String) (a : Operands) : Run Unit := do
  let xs ← byPosition function a
  if xs.isEmpty then return ()
  else throw (.badType (function ++ "() takes no arguments (" ++ counted xs.length ++ " given)"))

/-- The one argument of a function. -/
def takeOne (function : String) (a : Operands) : Run Obj := do
  match ← byPosition function a with
  | [x] => return x
  | xs =>
    throw (.badType (function ++ "() takes exactly one argument (" ++ counted xs.length
      ++ " given)"))

/-- The arguments of a function by its short name, between so many and so many. -/
def takeBetween (function name : String) (least most : Nat) (a : Operands) : Run (List Obj) := do
  let xs ← byPosition function a
  let refuse (bound : String) (n : Nat) : Run (List Obj) :=
    throw (.badType (name ++ " expected " ++ bound ++ counted n ++ " argument"
      ++ CallFault.ending n ++ ", got " ++ counted xs.length))
  if xs.length < least then refuse (if least == most then "" else "at least ") least
  else if most < xs.length then refuse (if least == most then "" else "at most ") most
  else return xs

/-- The arguments of a search: what is searched for, and at most two ends. -/
def takeSearch (function name : String) (a : Operands) : Run (Obj × List Obj) := do
  let xs ← byPosition function a
  let refuse (bound : String) : Run (Obj × List Obj) :=
    throw (.badType (name ++ "() takes at " ++ bound ++ " (" ++ counted xs.length ++ " given)"))
  match xs with
  | [] => refuse "least 1 argument"
  | x :: ends => if 2 < ends.length then refuse "most 3 arguments" else return (x, ends)

/-- The nearest number of parts to a whole number. -/
def clampedSize (n : Int) : Int :=
  max (-Value.maxSize - 1) (min Value.maxSize n)

/-- An end of a stretch. -/
def endOf (orNothing : String) (x : Obj) : Run Int := do
  let w ← get
  if (w.whole? x).isSome || (w.special? x "__index__").isSome then clampedSize <$> indexOf x
  else
    throw (.badType ("slice indices must be integers " ++ orNothing
      ++ "or have an __index__ method"))

/-- An end of a stretch of a text, which may be left open. -/
def endOrOpen? : Option Obj → Run (Option Int)
  | none | some .none => return none
  | some x => some <$> endOf "or None " x

/-- The number of parts that an argument has to be. -/
def sizeArgument (x : Obj) : Run Int := do
  asSize (← indexOf x)

/-- The number that an argument has to be, of no more than 32 bits. -/
def smallArgument (x : Obj) : Run Int := do
  let n ← indexOf x
  if -2147483648 ≤ n && n ≤ 2147483647 then return n
  else throw (.ordinary .overflow "Python int too large to convert to C int")

/-- A failure whose words hold the literal form of an object: if that cannot be had, there are no
words. -/
def failWith {α : Type} (c : ErrorClass) (x : Obj) (words : String → String) : Run α := do
  match ← catching (fun _ => true) (literalOf x) with
  | some text => throw (.ordinary c (words text))
  | none => throw (.ordinary c "")

/-- The failure of what there is no room for. -/
def noRoom {α : Type} : Run α :=
  throw (.ordinary .memory "")

/-- Refuses more parts than there is room for. -/
def requireRoom (n : Nat) : Run Unit :=
  if Value.maxRoom < n then noRoom else return ()

/-! ## By position or keyword -/

/-- The keywords of a call with their texts. -/
def World.namedOf (w : World) (a : Operands) : List (String × Obj) :=
  a.keywords.map fun k => ((w.text? k.1).getD "", k.2)

/-- Refuses a keyword that names a parameter given by position already, or none at all. -/
def refuseKeywords (function : String) (names : List String) (a : Operands) : Run Unit := do
  let given := names.take a.positional.length
  let named := (← get).namedOf a
  match given.findIdx? fun n => named.any fun k => k.1 == n,
      named.find? fun k => !names.contains k.1 with
  | some i, _ =>
    throw (.badType ("argument for " ++ function ++ "() given by name ('" ++ given.getD i ""
      ++ "') and position (" ++ counted (i + 1) ++ ")"))
  | none, some (k, _) =>
    throw (.badType ((Value.str k).literal ++ " is an invalid keyword argument for " ++ function
      ++ "()"))
  | none, none => return ()

/-- The failure that nothing is given to a parameter, told by its number. -/
def lackingFor {α : Type} (function name : String) (position : Nat) : Run α :=
  throw (.badType (function ++ "() missing required argument '" ++ name ++ "' (pos "
    ++ counted position ++ ")"))

/-- What a call gives to parameters, one after another, of which the first `needed` have to be given
and the first `most` may go by position; a parameter without a name goes by position only. -/
def passBetween (needed most : Nat) (function : String) (names : List String) (a : Operands) :
    Run (List (Option Obj)) := do
  let byPlace := a.positional.length
  let given := byPlace + a.keywords.length
  let refuse (bound : Nat) (sort : String) (given : Nat) : Run (List (Option Obj)) :=
    throw (.badType (function ++ "() takes at most " ++ counted bound ++ sort ++ " argument"
      ++ CallFault.ending bound ++ " (" ++ counted given ++ " given)"))
  if names.length < given then
    refuse names.length (if byPlace == 0 then " keyword" else "") given
  else if most < byPlace && most == 0 then
    throw (.badType (function ++ "() takes no positional arguments"))
  else if most < byPlace then refuse most " positional" byPlace
  else
    let named := (← get).namedOf a
    let isLacking (name : String) : Bool := named.all fun k => k.1 != name
    match ((names.take needed).zipIdx.drop byPlace).find? fun p => isLacking p.1 with
    | some (name, i) => lackingFor function name (i + 1)
    | none => pure ()
    refuseKeywords function names a
    return a.positional.map some
      ++ (names.drop a.positional.length).map fun n => named.lookup n

/-- What a call gives to parameters that may all go by position. -/
def passTo (function : String) (names : List String) (a : Operands) : Run (List (Option Obj)) :=
  passBetween 0 names.length function names a

/-- What a call gives to one parameter. -/
def givenAt (given : List (Option Obj)) (index : Nat) : Option Obj :=
  (given[index]?).join

/-- The type of an argument, as it is named where the argument is refused. -/
def World.argumentTitle (w : World) (x : Obj) : String :=
  if x == .none then "None" else Text.clip 50 (w.typeTitle x)

/-- A text for a parameter, if it is given. -/
def textFor (function name : String) (x : Option Obj) : Run (Option String) := do
  let w ← get
  match x with
  | none => return none
  | some x =>
    match w.text? x with
    | some text => return some text
    | none =>
      throw (.badType (function ++ "() argument '" ++ name ++ "' must be str, not "
        ++ w.argumentTitle x))

/-- A text that an object has to be; `refusal` are the words before the type of what is none. -/
def textNeeded (refusal : String) (x : Obj) : Run String := do
  let w ← get
  match w.text? x with
  | some text => return text
  | none => throw (.badType (refusal ++ Text.clip 100 (w.typeTitle x)))

/-- A text that an argument has to be; `what` says which one. -/
def textArgument (what : String) (x : Obj) : Run String := do
  let w ← get
  match w.text? x with
  | some text => return text
  | none => throw (.badType (what ++ " must be str, not " ++ w.argumentTitle x))

/-! ## Operators -/

/-- The arguments of an operator that is called by its name, of which so many are expected. -/
def expect (name : String) (n : Nat) (a : Operands) : Run (List Obj) :=
  if !a.keywords.isEmpty then
    throw (.badType ("wrapper " ++ name ++ "() takes no keyword arguments"))
  else if a.positional.length == n then return a.positional
  else
    throw (.badType ("expected " ++ counted n ++ " argument" ++ CallFault.ending n ++ ", got "
      ++ counted a.positional.length))

/-- The one argument of an operator. -/
def expectOne (name : String) (a : Operands) : Run Obj := do
  return (← expect name 1 a).headD .none

/-- The arguments of an operator, between so many and so many. -/
def expectBetween (name : String) (least most : Nat) (a : Operands) : Run (List Obj) :=
  let given := a.positional.length
  let refuse (bound : String) (n : Nat) : Run (List Obj) :=
    throw (.badType (" expected " ++ bound ++ counted n ++ " argument" ++ CallFault.ending n
      ++ ", got " ++ counted given))
  if !a.keywords.isEmpty then
    throw (.badType ("wrapper " ++ name ++ "() takes no keyword arguments"))
  else if given < least then refuse (if least == most then "" else "at least ") least
  else if most < given then refuse (if least == most then "" else "at most ") most
  else return a.positional

/-- The number of times that a sequence is to be repeated. -/
def expectFactor (name : String) (a : Operands) : Run Obj := do
  return (← expectBetween name 1 1 a).headD .none

/-- The name of an attribute, which has to be a text. -/
def attributeName (x : Obj) : Run String := do
  let w ← get
  match w.text? x with
  | some name => return name
  | none => throw (.badType ("attribute name must be string, not '" ++ w.clippedTitle x ++ "'"))

end StubClass
