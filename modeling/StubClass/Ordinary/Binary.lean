import StubClass.Ordinary.Sequence

set_option autoImplicit false

/-! # Operators on two sides

An operator between two objects asks the class of the first one, then that of the second one; the
second one comes first if its class is derived from that of the first and does otherwise. Sequences
are put together and repeated only after both were asked. -/

namespace StubClass

/-- Whether a class has an operator that puts sequences together, or repeats them. -/
def World.joinsParts (w : World) (x : Obj) (name : String) : Bool :=
  match w.special? x name with
  | some (.held t _) => [BuiltinType.str, .bytes, .list, .tuple].contains t
  | _ => false

/-- What the class of an object answers for an operator. -/
def askOperator (name : String) (x y : Obj) : Run (Option Obj) := do
  if (← get).joinsParts x name then return none
  else
    match ← callSpecial? x name [y] with
    | some .unknownOperand | none => return none
    | some answer => return some answer

/-- The answer of an operator on two objects, by its name and as it is written. -/
def binary (name sign : String) (x y : Obj) : Run Obj := do
  let w ← get
  let direct := "__" ++ name ++ "__"
  let reverse := "__r" ++ name ++ "__"
  let isSecondFirst := w.typeOf x != w.typeOf y && w.derives (w.typeOf y) (w.typeOf x)
    && w.special? y reverse != w.special? x reverse
  let asked := [askOperator direct x y, askOperator reverse y x]
  match ← firstAnswer (if isSecondFirst then asked.reverse else asked) with
  | some answer => return answer
  | none =>
    let w ← get
    let refuse : Run Obj :=
      throw (.badType ("unsupported operand type(s) for " ++ sign ++ ": '"
        ++ Text.clip 100 (w.typeTitle x) ++ "' and '" ++ Text.clip 100 (w.typeTitle y) ++ "'"))
    let times (x y : Obj) : Run Obj := do
      let w ← get
      if (w.whole? y).isSome || (w.special? y "__index__").isSome then repeated x y
      else
        throw (.badType ("can't multiply sequence by non-int of type '" ++ w.clippedTitle y ++ "'"))
    if w.joinsParts x direct then
      match name with
      | "add" => concatenated x y
      | "mul" => times x y
      | _ => refuse
    else if name == "mul" && w.joinsParts y direct then times y x
    else refuse

end StubClass
