import StubClass.Ordinary.Common

set_option autoImplicit false

/-! # Free functions

Functions that belong to no type: the one that gives an iterator, and the one that takes an
attribute. -/

namespace StubClass

/-- The attribute that a call asks for, or what is given for the case that there is none. -/
def takeByName (a : Operands) : Run Obj := do
  match ← takeBetween "getattr" "getattr" 2 3 a with
  | x :: name :: rest => do
    let label ← attributeName name
    match rest with
    | [] => take x label
    | otherwise :: _ => return (← take? x label).getD otherwise
  | _ => return .none

/-- The iterator that a call asks for. -/
def iterate (a : Operands) : Run Obj := do
  match ← takeBetween "iter" "iter" 1 2 a with
  | [x] => iteratorOf x
  | _ => notProvided "iter"

/-- The next object of an iterator, or what is given for the case that there is none. -/
def takeNext (a : Operands) : Run Obj := do
  match ← takeBetween "next" "next" 1 2 a with
  | it :: rest => do
    let w ← get
    match w.special? it "__next__", rest with
    | none, _ => throw (.badType ("'" ++ w.clippedTitle it ++ "' object is not an iterator"))
    | some hook, [] => callHook it hook []
    | some hook, otherwise :: _ => do
      return (← catching (fun e => e.isA .stopped) (callHook it hook [])).getD otherwise
  | [] => return .none

/-- Calls a free function. -/
def callFreeFunction (name : String) (a : Operands) : Run Obj :=
  match name with
  | "getattr" => takeByName a
  | "iter" => iterate a
  | "next" => takeNext a
  | _ => notProvided name

end StubClass
