import StubClass.Library.Signature

set_option autoImplicit false

/-! # Bound arguments

What a signature makes of the arguments of a call: it keeps them under the names of the parameters
and tells them as they are to be passed. Defaults can be put in for the parameters that were given
nothing. -/

namespace StubClass

/-- The parameters of the signature of bound arguments, with the names that they stand under. -/
def boundParameters (b : Obj) : Run (List (Obj × Obj)) := do
  let parameters ← take (← take b "_signature") "parameters"
  (← elementsOf (← callAttribute parameters "items" [])).mapM pairParts

/-- The argument that is kept under a name, if there is one. -/
def boundUnder? (b name : Obj) : Run (Option Obj) := do
  let arguments ← take b "arguments"
  catching (fun e => e.isA .noKey) (partUnder arguments name)

/-- Whether a parameter goes by keyword only. -/
def isOnlyNamed (p : Obj) : Run Bool := do
  isKindAmong (← take p "kind") [.furtherKeyword, .keywordOnly]

/-- The arguments that are passed by position: those of the first parameters, up to one that was
given nothing. -/
def positionalArguments (b : Obj) : List (Obj × Obj) → Run (List Obj)
  | [] => return []
  | (name, p) :: ps => do
    if ← isOnlyNamed p then return []
    else
      match ← boundUnder? b name with
      | none => return []
      | some x => do
        let here ← if ← isOfKind p .furtherPositional then elementsOf x else pure [x]
        return here ++ (← positionalArguments b ps)

/-- Puts the arguments that are passed by keyword into a dictionary; `hasStarted` says whether a
parameter was left out that goes by position. -/
def namedArguments (b d : Obj) : (hasStarted : Bool) → List (Obj × Obj) → Run Unit
  | _, [] => return ()
  | hasStarted, (name, p) :: ps => do
    let isNamed ← pure hasStarted <||> isOnlyNamed p
    if !isNamed then do
      let isGiven ← holds (← take b "arguments") name
      namedArguments b d (!isGiven) ps
    else do
      match ← boundUnder? b name with
      | none => pure ()
      | some x =>
        if ← isOfKind p .furtherKeyword then updateFrom d x else putItem d name x
      namedArguments b d true ps

/-- What a parameter stands for that was given nothing, if it stands for something then. -/
def unboundValue? (p : Obj) : Run (Option Obj) := do
  let default ← take p "default"
  if default != noDefault then return some default
  else
    let kind ← take p "kind"
    if kind == ofPassing .furtherPositional then some <$> newTuple []
    else if kind == ofPassing .furtherKeyword then some <$> newDict []
    else return none

/-- Puts in what the parameters stand for that were given nothing. -/
def applyDefaults (b : Obj) : Run Unit := do
  let arguments ← take b "arguments"
  let d ← newDict []
  for (name, p) in ← boundParameters b do
    let given ← catching (fun e => e.isA .noKey) (partUnder arguments name)
    match ← if given.isSome then pure given else unboundValue? p with
    | some x => putItem d name x
    | none => pure ()
  assign b "arguments" (some d)

/-- The arguments as they are written, each behind its name. -/
def boundLiterals : List Obj → Run (List String)
  | [] => return []
  | entry :: entries => do
    let (name, x) ← pairParts entry
    let label ← inText name
    let written ← literalOf x
    return (label ++ "=" ++ written) :: (← boundLiterals entries)

/-- A function of bound arguments. -/
def boundFunction (name : String) (g : Given) : Run Obj := do
  let self := g.self
  match name with
  | "__init__" => do
    assign self "arguments" (some (g.get "arguments"))
    assign self "_signature" (some (g.get "signature"))
    return .none
  | "signature" => take self "_signature"
  | "args" => do newTuple (← positionalArguments self (← boundParameters self))
  | "kwargs" => do
    let d ← newDict []
    namedArguments self d false (← boundParameters self)
    return d
  | "apply_defaults" => do
    applyDefaults self
    return .none
  | "__eq__" => do
    let other := g.get "other"
    if self == other then return .bool true
    else if !(← isA other .boundArguments) then return .unknownOperand
    else
      let mine ← take self "signature"
      let first ← compare .eq mine (← take other "signature")
      if ← truthOf first then do
        let mine ← take self "arguments"
        compare .eq mine (← take other "arguments")
      else return first
  | "__getstate__" => do
    let s ← take self "_signature"
    newDict (Table.ofTexts [("_signature", s), ("arguments", ← take self "arguments")])
  | "__setstate__" => do
    for n in ["_signature", "arguments"] do
      assign self n (some (← partUnder (g.get "state") (.word n)))
    return .none
  | "__repr__" => do
    let entries ← elementsOf (← callAttribute (← take self "arguments") "items" [])
    let written ← boundLiterals entries
    let title ← inText (← take (← take self "__class__") "__name__")
    newText ("<" ++ title ++ " (" ++ commaJoined written ++ ")>")
  | _ => notProvided ("BoundArguments." ++ name)

end StubClass
