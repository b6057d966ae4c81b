import StubClass.Library.Naming
import StubClass.Signature.Fitting

set_option autoImplicit false

/-! # Signatures as objects

A signature keeps its parameters under their names. It is made of parameters that come in order,
and it says whether arguments fit them. Parameters are asked for what they say of themselves, so
anything that answers like a parameter can stand in the place of one. -/

namespace StubClass

/-- All kinds of parameters of functions. -/
def FormalKind.all : List FormalKind :=
  [positionalOnly, positional, furtherPositional, keywordOnly, furtherKeyword]

/-- The name of a kind as a constant. -/
def FormalKind.constant : FormalKind → String
  | positionalOnly => "POSITIONAL_ONLY"
  | positional => "POSITIONAL_OR_KEYWORD"
  | furtherPositional => "VAR_POSITIONAL"
  | keywordOnly => "KEYWORD_ONLY"
  | furtherKeyword => "VAR_KEYWORD"

/-- A kind in words. -/
def FormalKind.words : FormalKind → String
  | positionalOnly => "positional-only"
  | positional => "positional or keyword"
  | furtherPositional => "variadic positional"
  | keywordOnly => "keyword-only"
  | furtherKeyword => "variadic keyword"

/-- The object of a kind of parameters of functions. -/
def ofPassing (k : FormalKind) : Obj :=
  .entity (ParameterKind.all.length + Visibility.all.length + FormalKind.all.findIdx (· == k))

/-- What stands in the place of a default or a note that is not there. -/
def noDefault : Obj :=
  .type .noDefault

/-- A text with the literal form of an object in a place of it. -/
def quoting (before : String) (x : Obj) (behind : String) : Run String := do
  return before ++ (← literalOf x) ++ behind

/-! ## Making -/

/-- Adds a parameter of a signature with its parts. -/
def newSignatureParameter (name : Obj) (kind : FormalKind) (default note : Obj) : Run Obj := do
  let p ← makeOf .signatureParameter .plain
  for (n, x) in [("_name", name), ("_kind", ofPassing kind), ("_default", default),
      ("_annotation", note)] do
    putSlot (.type .signatureParameter) n p x
  return p

/-- A dictionary whose order counts without entries. -/
def newOrdered : Run Obj :=
  makeOf .orderedDict (.dict [])

/-- Adds a signature with parameters that are known to be in order. -/
def newSignature (parameters : List Obj) (note : Obj) : Run Obj := do
  let names ← newOrdered
  for p in parameters do
    putItem names (← take p "name") p
  let s ← makeOf .signature .plain
  putSlot (.type .signature) "_parameters" s (← makeOf .readOnlyDict (.readOnly names))
  putSlot (.type .signature) "_return_annotation" s note
  return s

/-- Whether a parameter is of a kind. -/
def isOfKind (p : Obj) (k : FormalKind) : Run Bool := do
  compares .eq (← take p "kind") (ofPassing k)

/-- Whether an object is one of some kinds. -/
def isKindAmong (x : Obj) (ks : List FormalKind) : Run Bool :=
  isAmong x (ks.map ofPassing)

/-- Sets a parameter of a signature up. -/
def setUpSignatureParameter (g : Given) : Run Obj := do
  let self := g.self
  let name := g.get "name"
  let default := g.get "default"
  let refuse (text : String) : Run Unit := throw (.badValue text)
  match ← catching (fun e => e.isA .badValue) (apply (.type .parameterPassing) [g.get "kind"]) with
  | none => do
    throw (.badValue (← quoting "value " (g.get "kind") " is not a valid Parameter.kind"))
  | some kind => do
    assign self "_kind" (some kind)
    if default != noDefault && (← isKindAmong kind [.furtherPositional, .furtherKeyword]) then
      refuse ((← inText (← take kind "description")) ++ " parameters cannot have default values")
    assign self "_default" (some default)
    assign self "_annotation" (some (g.get "annotation"))
    if name == noDefault then refuse "name is a required attribute for Parameter"
    if !(← isA name .str) then
      throw (.badType ("name must be a str, not a " ++ (← typeNameIn name)))
    let first ← partUnder name (← newInt 0)
    if ← compares .eq first (.word ".") then
      let own := ((← get).text? name).getD ""
      let rest := String.ofList (own.toList.drop 1)
      if ← truthOf (← callAttribute (.word rest) "isdigit" []) then
        if ← compares .ne (← take self "_kind") (ofPassing .positional) then
          let words ← inText (← take (← take self "_kind") "description")
          refuse ("implicit arguments must be passed as positional or keyword arguments, not "
            ++ words)
        assign self "_kind" (some (ofPassing .positionalOnly))
        assign self "_name" (some (.word ("implicit" ++ rest)))
        return .none
    let isReserved ← (Option.isSome <$> valueUnder? reservedTable name)
      <&&> ((· != ofPassing .positionalOnly) <$> take self "_kind")
    let isShaped : Run Bool := do truthOf (← callAttribute name "isidentifier" [])
    if ← pure isReserved <||> not <$> isShaped then
      refuse (← quoting "" name " is not a valid parameter name")
    assign self "_name" (some name)
    return .none

/-- Looks at the parameters of a new signature one after another and keeps them under their names;
`top` is the furthest kind so far, and `isDefaulted` says whether one of it had a default. -/
def keepParameters (names : Obj) : (top : Obj) → (isDefaulted : Bool) → List Obj → Run Unit
  | _, _, [] => return ()
  | top, isDefaulted, p :: ps => do
    let kind ← take p "kind"
    let name ← take p "name"
    let isBefore ← compares .lt kind top
    let words (k : Obj) : Run String := do inText (← take k "description")
    if isBefore then
      let before ← words top
      throw (.badValue ("wrong parameter order: " ++ before ++ " parameter before "
        ++ (← words kind) ++ " parameter"))
    let isFurther ← compares .gt kind top
    let top := if isFurther then kind else top
    let mut seen := isDefaulted && !isFurther
    if ← isKindAmong kind [.positionalOnly, .positional] then
      if (← take p "default") == noDefault then
        if seen then throw (.badValue "non-default argument follows default argument")
      else seen := true
    if (← valueUnder? ((← get).tableOf names) name).isSome then
      throw (.badValue (← quoting "duplicate parameter name: " name ""))
    putItem names name p
    keepParameters names top seen ps

/-- Sets a signature up. -/
def setUpSignature (g : Given) : Run Obj := do
  let names ← newOrdered
  if g.get "parameters" != .none then
    let ps ← elementsOf (g.get "parameters")
    if ← truthOf (g.get "__validate_parameters__") then
      keepParameters names (ofPassing .positionalOnly) false ps
    else
      for p in ps do
        putItem names (← take p "name") p
  assign g.self "_parameters" (some (← makeOf .readOnlyDict (.readOnly names)))
  assign g.self "_return_annotation" (some (g.get "return_annotation"))
  return .none

/-- The parameters of a signature. -/
def parametersOf (s : Obj) : Run (List Obj) := do
  elementsOf (← callAttribute (← take s "parameters") "values" [])

/-! ## Binding -/

/-- Refuses arguments that do not fit. -/
def refuseFit {α : Type} (fault : BindFault Obj) : Run α := do
  match fault.name? with
  | none => throw (.badType fault.before)
  | some name => throw (.badType (← quoting fault.before name fault.behind))

/-- How a call is fitted to the parameters of a signature: what is given by keyword, where the bound
arguments are kept, and whether arguments may be missing. -/
def fitting (keywords bound : Obj) (isPartial : Bool) : Fitting Run Obj Obj Obj where
  isOfKind := isOfKind
  goesByKeywordOnly p := do isKindAmong (← take p "kind") [.furtherKeyword, .keywordOnly]
  name p := take p "name"
  hasDefault p := do return (← take p "default") != noDefault
  isGiven name := do return (← valueUnder? ((← get).tableOf keywords) name).isSome
  pull? name := do
    let x? ← valueUnder? ((← get).tableOf keywords) name
    if x?.isSome then removeKey keywords name
    return x?
  firstLeft? := do return ((← get).tableOf keywords).head?.map (·.key)
  keep name x := putItem bound name x
  keepPositional p xs := do putItem bound (← take p "name") (← newTuple xs)
  keepNamed p := do putItem bound (← take p "name") keywords
  isPartial := isPartial
  refuse := refuseFit

/-- Binds arguments to a signature. -/
def bindArguments (s : Obj) (given : List Obj) (keywords : Obj) (isPartial : Bool) : Run Obj := do
  let bound ← newDict []
  (fitting keywords bound isPartial).run given (← parametersOf s)
  apply (← take s "_bound_arguments_cls") [s, bound]

/-! ## Writing -/

/-- A note as it is written. -/
def noteText (x : Obj) : Run String := do
  if !(← isA x .type) then literalOf x
  else
    let m ← take x "__module__"
    let name ← plainText (← take x "__qualname__")
    if ← isAmong m [.word BuiltinType.standardModule, .none] then return name
    else return (← plainText m) ++ "." ++ name

/-- A parameter as it is written. -/
def parameterText (p : Obj) : Run String := do
  let kind ← take p "kind"
  let name ← take p "_name"
  let note ← take p "_annotation"
  let default ← take p "_default"
  let written ← if note != noDefault then do
      let n ← inText name
      pure (n ++ ": " ++ (← noteText note))
    else if default == noDefault then textAnswer "__str__" name
    else inText name
  let written ← if default == noDefault then pure written
    else do
      pure (written ++ (if note == noDefault then "=" else " = ") ++ (← literalOf default))
  if ← compares .eq kind (ofPassing .furtherPositional) then return "*" ++ written
  else if ← compares .eq kind (ofPassing .furtherKeyword) then return "**" ++ written
  else return written

/-- Parameters as they are written one after another: a slash ends those that go by position only,
as long as `isOnly` says that there were some, and a star stands before those that go by keyword
only as long as `wantsStar` says so. -/
def parameterTexts : (isOnly wantsStar : Bool) → List Obj → Run (List String)
  | isOnly, _, [] => return if isOnly then ["/"] else []
  | isOnly, wantsStar, p :: ps => do
    let written ← plainText p
    let isOnlyHere ← isOfKind p .positionalOnly
    let slash := if !isOnlyHere && isOnly then ["/"] else []
    let isFurther ← isOfKind p .furtherPositional
    let isNamed ← if isFurther then pure false else isOfKind p .keywordOnly
    let star := if isNamed && wantsStar then ["*"] else []
    let rest ← parameterTexts isOnlyHere (wantsStar && !isFurther && !isNamed) ps
    return slash ++ star ++ written :: rest

/-- A signature as it is written. -/
def signatureText (s : Obj) : Run String := do
  let texts ← parameterTexts false true (← parametersOf s)
  let written := "(" ++ commaJoined texts ++ ")"
  let note ← take s "return_annotation"
  if note == noDefault then return written
  else return written ++ " -> " ++ (← noteText note)

/-! ## Functions -/

/-- An object with its written form in brackets, by the name of its class. -/
def inBrackets (x : Obj) (sign : String) : Run Obj := do
  let name ← inText (← take (← take x "__class__") "__name__")
  newText ("<" ++ name ++ " " ++ sign ++ (← inText x) ++ sign ++ ">")

/-- Whether two objects have equal parts, looked at one after another. -/
def equalParts (x y : Obj) : List String → Run Bool
  | [] => return true
  | n :: ns => do
    let a ← take x n
    if ← isEqual a (← take y n) then equalParts x y ns else return false

/-- A function of the parameters of signatures. -/
def signatureParameterFunction (name : String) (g : Given) : Run Obj := do
  let self := g.self
  match name with
  | "__init__" => setUpSignatureParameter g
  | "name" | "kind" | "default" | "annotation" => take self ("_" ++ name)
  | "__str__" => do newText (← parameterText self)
  | "__repr__" => inBrackets self "\""
  | "__hash__" => do
    let parts ← ["name", "kind", "annotation", "default"].mapM fun n => take self n
    newInt (← hashOf (← newTuple parts)).toInt
  | "__eq__" => do
    let other := g.get "other"
    if self == other then return .bool true
    else if !(← isA other .signatureParameter) then return .unknownOperand
    else return .bool (← equalParts self other ["_name", "_kind", "_default", "_annotation"])
  | "__reduce__" => do
    let c := (← get).typeOf self
    let made ← newTuple [← take self "_name", ← take self "_kind"]
    let state ← ["_default", "_annotation"].mapM fun n => do return (n, ← take self n)
    newTuple [c, made, ← newDict (Table.ofTexts state)]
  | "__setstate__" => do
    for n in ["_default", "_annotation"] do
      assign self n (some (← partUnder (g.get "state") (.word n)))
    return .none
  | "replace" => do
    let part (n : String) : Run Obj := do
      if g.get n == .type .leftOut then take self ("_" ++ n) else return g.get n
    let label ← part "name"
    let kind ← part "kind"
    let note ← part "annotation"
    let default ← part "default"
    call ((← get).typeOf self)
      ⟨[label, kind], [(.word "default", default), (.word "annotation", note)]⟩
  | _ => notProvided ("Parameter." ++ name)

/-- A signature with other parameters, of the same class. -/
def withParameters (s : Obj) (parameters : List Obj) : Run Obj := do
  call (← take s "replace") ⟨[], [(.word "parameters", ← newTuple parameters)]⟩

/-- What the equality of signatures looks at: the parameters that go by position, those by keyword
under their names, and the note. -/
def signatureBasis (s : Obj) : Run Obj := do
  let ps ← parametersOf s
  let mut positional := #[]
  let named ← newDict []
  for p in ps do
    if ← isOfKind p .keywordOnly then putItem named (← take p "name") p
    else positional := positional.push p
  newTuple [← newTuple positional.toList, named, ← take s "return_annotation"]

/-- A function of signatures. -/
def signatureFunction (name : String) (g : Given) : Run Obj := do
  let self := g.self
  match name with
  | "__init__" => setUpSignature g
  | "parameters" => take self "_parameters"
  | "return_annotation" => take self "_return_annotation"
  | "bind" | "bind_partial" => do
    let f ← take self "_bind"
    let given ← newTuple g.further
    let keywords ← newDict []
    for k in g.named do
      putItem keywords k.1 k.2
    call f ⟨[given, keywords],
      if name == "bind" then [] else [(.word "partial", .bool true)]⟩
  | "_bind" => do
    let isPartial ← truthOf (g.get "partial")
    bindArguments self (← elementsOf (g.get "args")) (g.get "kwargs") isPartial
  | "__str__" => do newText (← signatureText self)
  | "__repr__" => inBrackets self ""
  | "_hash_basis" => signatureBasis self
  | "__reduce__" => do
    let c := (← get).typeOf self
    let ps ← elementsOf (← callAttribute (← take self "_parameters") "values" [])
    let made ← newTuple [← newTuple ps]
    let note := "_return_annotation"
    newTuple [c, made, ← newDict (Table.ofTexts [(note, ← take self note)])]
  | "__setstate__" => do
    let note := "_return_annotation"
    assign self note (some (← partUnder (g.get "state") (.word note)))
    return .none
  | "__hash__" => do
    let ps ← parametersOf self
    let note ← take self "return_annotation"
    newInt (← hashOf (← newTuple (ps ++ [note]))).toInt
  | "__eq__" => do
    let other := g.get "other"
    if self == other then return .bool true
    else if !(← isA other .signature) then return .unknownOperand
    else
      let mine ← callAttribute self "_hash_basis" []
      compare .eq mine (← callAttribute other "_hash_basis" [])
  | "replace" => do
    let parameters ← if g.get "parameters" == .type .leftOut then
        callAttribute (← take self "parameters") "values" []
      else pure (g.get "parameters")
    let note ← if g.get "return_annotation" == .type .leftOut then take self "_return_annotation"
      else pure (g.get "return_annotation")
    call ((← get).typeOf self) ⟨[parameters], [(.word "return_annotation", note)]⟩
  | _ => notProvided ("Signature." ++ name)

end StubClass
