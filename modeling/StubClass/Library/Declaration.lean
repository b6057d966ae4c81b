import StubClass.Library.Checking
import StubClass.Library.Signature

set_option autoImplicit false

/-! # Declarations as objects

A builder collects the parts of one definition, a definition keeps them, and a parameter is one of
them. Builders refuse parameters that come out of order or under a name that is taken. -/

namespace StubClass

/-! ## Parameters -/

/-- The first kind of parameters that an object is equal to. -/
def kindEqualTo? (x : Obj) : List ParameterKind → Run (Option ParameterKind)
  | [] => return none
  | k :: ks => do
    if ← isEqual x (← take (.type .parameterKind) k.constant) then return some k
    else kindEqualTo? x ks

/-- A parameter as it is declared. -/
def renderParameter (x : Obj) : Run Obj := do
  let kind ← take x "kind"
  let named (sign : String) : Run Obj := do
    let name ← inText (← take x "name")
    newText (name ++ sign ++ (← literalOf (← take x "default")))
  match ← kindEqualTo? kind ParameterKind.all with
  | some .required => take x "name"
  | some .optional => named " = "
  | some .keywordRequired => do newText ((← inText (← take x "name")) ++ ":")
  | some .keyword => named ": "
  | none => return .none

/-- A parameter as one of a signature. -/
def signatureParameterFor (x : Obj) : Run Obj := do
  let isKeyword ← truthOf (← take (← take x "kind") "is_keyword")
  let kind := ofPassing (if isKeyword then .keywordOnly else .positional)
  let default ← if ← truthOf (← take (← take x "kind") "has_default") then take x "default"
    else pure noDefault
  construct .signatureParameter [← take x "name", kind] [("default", default)]

/-- A function of parameters. -/
def parameterFunction (name : String) (g : Given) : Run Obj :=
  match name with
  | "__post_init__" => checkParameter g.self
  | "render" => renderParameter g.self
  | "to_inspect" => signatureParameterFor g.self
  | _ => recordFunction .parameter name g

/-! ## Definitions -/

/-- The answers of several objects to a call of a function of theirs. -/
def askEach (name : String) : List Obj → Run (List Obj)
  | [] => return []
  | x :: xs => do
    let y ← callAttribute x name []
    return y :: (← askEach name xs)

/-- A function of definitions. -/
def definitionFunction (name : String) (g : Given) : Run Obj := do
  let self := g.self
  match name with
  | "wants_random" => do
    let asked ← take self "generate_random"
    if ← truthOf asked then return .bool (← isMarker (← take self "return_value"))
    else return asked
  | "signature" => do
    let ps ← askEach "to_inspect" (← elementsOf (← take self "parameters"))
    construct .signature [← newList ps] []
  | "full_signature" => do
    let receiver ← take (← take self "visibility") "receiver"
    let first ← construct .signatureParameter [receiver, ofPassing .positionalOnly] []
    let ps ← askEach "to_inspect" (← elementsOf (← take self "parameters"))
    construct .signature [← newList (first :: ps)] []
  | "render_signature" => do
    let join ← take (.word ", ") "join"
    let ps ← askEach "render" (← elementsOf (← take self "parameters"))
    let joined ← apply join [← newList ps]
    newText ("(" ++ ((← get).text? joined).getD "" ++ ")")
  | _ => recordFunction .definition name g

/-! ## Builders -/

/-- Sets a builder up. -/
def setUpBuilder (self name visibility : Obj) : Run Obj := do
  requireName name "method"
  assign self "_name" (some name)
  let isReserved (x : Obj) : Run Bool := do
    if ← truthOf (← callAttribute (← take x "_name") "startswith" [.word "__"]) then
      truthOf (← callAttribute (← take x "_name") "endswith" [.word "__"])
    else return false
  if ← isReserved self then raise .invalidIdentifier [("name", name), ("role", .word "method")]
  match ← memberFor? .visibility visibility with
  | none => raise .invalidVisibility [("visibility", visibility)]
  | some v => do
    assign self "_visibility" (some v)
    assign self "_parameters" (some (← newList []))
    assign self "_return_value" (some .none)
    assign self "_generate_random" (some (.bool false))
    return .none

/-- The names of parameters, as a set. -/
def namesTaken (t : Table) : List Obj → Run Table
  | [] => return t
  | p :: ps => do
    let t ← putAllKeys t [← take p "name"]
    namesTaken t ps

/-- Refuses a parameter that comes out of order. -/
def refuseOrder (self p : Obj) (rule : OrderRule) : Run Unit := do
  let method ← take self "_name"
  raise .parameterOrder [("method", method), ("parameter", ← take p "name"),
    ("reason", .word rule.reason)]

/-- Looks at the order of a parameter behind the last one. -/
def checkOrder (self p last : Obj) : Run Unit := do
  let isKeyword ← truthOf (← take (← take p "kind") "is_keyword")
  let wasKeyword : Run Bool := do truthOf (← take last "is_keyword")
  if ← pure !isKeyword <&&> wasKeyword then
    refuseOrder self p .positionalAfterKeyword
  else
    let kind ← take p "kind"
    if ← isMember kind .parameterKind "REQUIRED" <&&> isMember last .parameterKind "OPTIONAL"
    then refuseOrder self p .requiredAfterOptional
    else return ()

/-- Appends a parameter to a builder. -/
def appendParameter (self p : Obj) : Run Obj := do
  let taken ← namesTaken [] (← elementsOf (← take self "_parameters"))
  let taken ← putAllKeys taken [← take (← take self "_visibility") "receiver"]
  if (← valueUnder? taken (← take p "name")).isSome then
    let method ← take self "_name"
    raise .duplicateParameter [("method", method), ("parameter", ← take p "name")]
  if ← truthOf (← take self "_parameters") then
    let last ← partUnder (← take self "_parameters") (← newInt (-1))
    checkOrder self p (← take last "kind")
  let _ ← callAttribute (← take self "_parameters") "append" [p]
  return self

/-- Gives a builder a new parameter of a kind. -/
def declareParameter (self : Obj) (k : ParameterKind) (parts : List Obj) : Run Obj := do
  let append ← take self "_append"
  let kind ← take (.type .parameterKind) k.constant
  apply append [← construct .parameter (kind :: parts) []]

/-- A function of builders. -/
def builderFunction (name : String) (g : Given) : Run Obj := do
  let self := g.self
  match ParameterKind.ofWord? name with
  | some k =>
    declareParameter self k
      (g.get "name" :: if k.hasDefault then [g.get "default"] else [])
  | none =>
    match name with
    | "__init__" => setUpBuilder self (g.get "name") (g.get "visibility")
    | "__repr__" => do
      let label ← literalOf (← take self "_name")
      let word ← literalOf (← take (← take self "_visibility") "value")
      newText ("MethodConfig(" ++ label ++ ", " ++ word ++ ")")
    | "parameters" => do tupleOf (← take self "_parameters")
    | "name" | "visibility" | "return_value" | "generate_random" => take self ("_" ++ name)
    | "returns" => do
      assign self "_return_value" (some (g.get "value"))
      return self
    | "generate" => do
      assign self "_generate_random" (some (.bool (← truthOf (g.get "enabled"))))
      return self
    | "freeze" => do
      let label ← take self "_name"
      let visibility ← take self "_visibility"
      let parameters ← tupleOf (← take self "_parameters")
      let value ← take self "_return_value"
      construct .definition [] [("name", label), ("visibility", visibility),
        ("parameters", parameters), ("return_value", value),
        ("generate_random", ← take self "_generate_random")]
    | "_append" => appendParameter self (g.get "parameter")
    | _ => notProvided ("MethodConfig." ++ name)

end StubClass
