import StubClass.Library.Given

set_option autoImplicit false

/-! # Enumerations

An enumeration is a class with a fixed number of objects, its members. The class knows them by name
and by value; calling it with a value gives the member of the value. A member says its name and its
value, and what else its class works out from it. -/

namespace StubClass

/-- The failure of a member that an enumeration does not have. -/
def noChoice {α : Type} (owner name : Obj) : Run α := do
  let written ← literalOf owner
  throw (.noAttribute (written ++ " has no attribute " ++ (← literalOf name)))

/-- The member of an enumeration under a name. -/
def choiceNamed (owner name : Obj) : Run Obj := do
  partUnder (← take owner "_member_map_") name

/-! ## Finding members -/

/-- The first member whose value is equal to an object. -/
def firstOfValue (x : Obj) : List Obj → Run (Option Obj)
  | [] => return none
  | m :: ms => do
    if ← compares .eq (← take m "_value_") x then return some m else firstOfValue x ms

/-- The member of an enumeration with a value, if it has one. -/
def memberOfValue? (c x : Obj) : Run (Option Obj) := do
  let known ← tryCatch
    (do return (some (← partUnder (← take c "_value2member_map_") x), false)) fun e =>
      if e.isA .noKey then pure (none, false)
      else if e.isA .badType then pure (none, true)
      else throw e
  match known with
  | (some m, _) => return some m
  | (none, true) => do
    firstOfValue x (← elementsOf (← callAttribute (← take c "_member_map_") "values" []))
  | (none, false) => return none

/-- The member of an enumeration for a value. -/
def chooseMember (c x : Obj) : Run Obj := do
  if (← get).typeOf x == c then return x
  else
    match ← memberOfValue? c x with
    | some m => return m
    | none => do
      if !(← truthOf (← take c "_member_map_")) then
        throw (.badType ((← literalOf c) ++ " has no members defined"))
      else
        let f ← take c "_missing_"
        let answer ← apply f [x]
        if ← isInstance answer c then return answer
        else if answer == .none then
          let written ← literalOf x
          throw (.badValue (written ++ " is not a valid "
            ++ (← plainText (← take c "__qualname__"))))
        else
          let name ← plainText (← take c "__name__")
          throw (.badType ("error in " ++ name ++ "._missing_: returned " ++ (← literalOf answer)
            ++ " instead of None or a valid member"))

/-! ## Members -/

/-- Whether a text starts and ends with two underscores and has something else between them. -/
def isReservedName (name : String) : Bool :=
  let cs := name.toList
  4 < cs.length && name.startsWith "__" && name.endsWith "__" && cs[2]? != some '_'
    && cs[cs.length - 3]? != some '_'

/-- An object and one more, if that can be had. -/
def oneMore? (x : Obj) : Run (Option Obj) := do
  catching Failure.isBadType (binary "add" "+" x (← newInt 1))

/-- The first object of several, from behind, that has one more. -/
def lastAndOne? : List Obj → Run (Option Obj)
  | [] => return none
  | x :: xs => do
    match ← oneMore? x with
    | some y => return some y
    | none => lastAndOne? xs

/-- The value for a member that is given none: one more than the last value, if that is the largest
one. -/
def nextValue (start values : Obj) : Run Obj := do
  if !(← truthOf values) then return start
  else
    let lastIndex ← newInt (-1)
    let next ← catching Failure.isBadType do
      let last ← partUnder values lastIndex
      let _ ← callAttribute values "sort" []
      if ← isEqual last (← partUnder values lastIndex) then
        some <$> binary "add" "+" last (← newInt 1)
      else return none
    match next.join with
    | some y => return y
    | none => do
      return (← lastAndOne? (← elementsOf (← apply (.type .reversed) [values]))).getD start

/-- Makes a kind of parameters of functions: its value is the number of those that there are. -/
def newPassing (c description : Obj) : Run Obj := do
  let value ← newInt (← lengthOf (← take c "__members__"))
  let m ← apply (.held .int "__new__") [c, value]
  assign m "_value_" (some value)
  assign m "description" (some description)
  return m

/-! ## Names within reach -/

/-- Adds the names that pass a test to others, unless they are there. -/
def gather (isWanted : String → Run Bool) (names : List String) : List Obj → Run (List String)
  | [] => return names
  | x :: xs => do
    let name ← plainText x
    gather isWanted (if ← isWanted name then names.insert name else names) xs

/-- Whether a name is a hidden one. -/
def isHiddenName (name : String) : Run Bool :=
  match name.toList with
  | c :: _ => return c == '_'
  | [] => throw (.ordinary .badIndex "string index out of range")

/-- The names that a class holds for the members of an enumeration, after others. -/
def gatherHeld (map : Obj) (names : List String) : List Obj → Run (List String)
  | [] => return names
  | pair :: pairs => do
    let name ← plainText (← partUnder pair (← newInt 0))
    if ← isHiddenName name then gatherHeld map names pairs
    else
      let x ← partUnder pair (← newInt 1)
      let isMember ← isAmong (.word name) (← elementsOf map)
      let names ← if ← isA x .choiceProperty then do
          let getter ← take x "fget"
          pure (if getter != .none || !isMember then names.insert name else names.erase name)
        else pure (if isMember then names else names.insert name)
      gatherHeld map names pairs

/-- The names that the classes of an order hold for the members of an enumeration, after others. -/
def gatherAlong (map : Obj) (names : List String) : List Obj → Run (List String)
  | [] => return names
  | c :: cs => do
    let own ← elementsOf (← callAttribute (← take c "__dict__") "items" [])
    gatherAlong map (← gatherHeld map names own) cs

/-- Names in order. -/
def inOrder (names : List String) : Run Obj :=
  newList ((names.eraseDups.mergeSort fun a b => !(decide (b < a))).map Obj.word)

/-- The names within reach of a member of an enumeration. -/
def namesOfMember (x : Obj) : Run Obj := do
  let c ← take x "__class__"
  let isPlain := (← take c "_member_type_") == .type .object
  let names ← if isPlain then pure [] else do
    gather (fun _ => return true) [] (← elementsOf (← callHeld .object "__dir__" (.ofList [x])))
  let kept ← match ← take? x "__dict__" with
    | some own => elementsOf own
    | none => pure []
  let map ← take x "_member_map_"
  let isOwn (name : String) : Run Bool := do
    if ← isHiddenName name then return false
    else return !(← isAmong (.word name) (← elementsOf map))
  let names ← gather isOwn names kept
  let names ← gatherAlong map names (← elementsOf (← callAttribute c "mro" []))
  inOrder (["__class__", "__doc__", "__eq__", "__hash__", "__module__"] ++ names)

/-- The names within reach of an enumeration. -/
def namesOfEnumeration (c : Obj) : Run Obj := do
  let members ← (← elementsOf (← take c "_member_names_")).mapM plainText
  let isMaker := (← take c "_new_member_") == .held .object "__new__"
  let shown := ["__class__", "__contains__", "__doc__", "__getitem__", "__init_subclass__",
    "__iter__", "__len__", "__members__", "__module__", "__name__", "__qualname__"]
  let shown := members ++ shown ++ (if isMaker then [] else ["__new__"])
  let made ← take c "_member_type_"
  if made == .type .object then inOrder shown
  else
    let names ← (← elementsOf (← sortedNames made)).mapM plainText
    inOrder (names ++ shown)

/-! ## What members do -/

/-- A function of the members of enumerations. -/
def choiceFunction (name : String) (g : Given) : Run Obj := do
  let x := g.self
  match name with
  | "__new__" => chooseMember (g.get "cls") (g.get "value")
  | "__init__" => return .none
  | "_missing_" => return .none
  | "__repr__" => do
    let title ← plainText (← take (← take x "__class__") "__name__")
    let own ← plainText (← take x "_name_")
    let writer ← take (← take x "__class__") "_value_repr_"
    let value ← take x "_value_"
    let written ← if ← truthOf writer then do inText (← apply writer [value]) else literalOf value
    newText ("<" ++ title ++ "." ++ own ++ ": " ++ written ++ ">")
  | "__str__" => do
    let title ← plainText (← take (← take x "__class__") "__name__")
    newText (title ++ "." ++ (← plainText (← take x "_name_")))
  | "__format__" => callHeld .str "__format__" (.ofList [← plainOf x, g.get "format_spec"])
  | "__hash__" => do newInt (← hashOf (← take x "_name_")).toInt
  | "__reduce_ex__" => do
    let c ← take x "__class__"
    newTuple [c, ← newTuple [← take x "_value_"]]
  | "__copy__" | "__deepcopy__" => return x
  | "__dir__" => namesOfMember x
  | "_generate_next_value_" => nextValue (g.get "start") (g.get "last_values")
  | "name" => take x "_name_"
  | "value" => take x "_value_"
  | _ => notProvided ("Enum." ++ name)

/-- A value that the kinds of parameters work out. -/
def kindAccessor (name : String) (x : Obj) : Run Obj := do
  let named := if name == "is_keyword" then ["KEYWORD_REQUIRED", "KEYWORD"]
    else ["OPTIONAL", "KEYWORD"]
  let members ← named.mapM fun n => take (.type .parameterKind) n
  return .bool (← isAmong x members)

/-- A value that the visibilities work out. -/
def visibilityAccessor (name : String) (x : Obj) : Run Obj := do
  let among (names : List String) : Run Obj := do
    let members ← names.mapM fun n => take (.type .visibility) n
    return .bool (← isAmong x members)
  match name with
  | "is_class_level" => among ["PUBLIC_CLASS", "PRIVATE_CLASS"]
  | "is_public" => among ["PUBLIC", "PUBLIC_CLASS"]
  | _ => do
    let isClassLevel ← truthOf (← take x "is_class_level")
    return .word (if isClassLevel then "cls" else "self")

/-! ## Enumerations -/

/-- Changes an attribute of an enumeration, or removes it, in the way of all classes. -/
def changeChoices (c name : Obj) (y : Option Obj) : Run Obj := do
  let function := if y.isSome then "__setattr__" else "__delattr__"
  callHeld .type function (.ofList (c :: name :: y.toList))

/-- The members of an enumeration in their order. -/
def choicesOf (c : Obj) : Run (List Obj) := do
  (← elementsOf (← take c "_member_names_")).mapM (choiceNamed c)

/-- An iterator over members that a function of enumerations makes. -/
def newProducer (name : String) (xs : List Obj) : Run Obj := do
  let own := "<genexpr>"
  let path := BuiltinType.choiceType.name ++ "." ++ name ++ ".<locals>." ++ own
  let code ← codeUnder path ⟨.labelled path, own, path, [], []⟩
  makeOf .producer (.producer ⟨xs, .created, .word own, .word path, code⟩)

/-- Refuses to derive an enumeration from one that has members. -/
def refuseExtension (name : Obj) (bases : List Obj) : Run Unit := do
  for base in bases do
    for c in ← elementsOf (← take base "__mro__") do
      if ← isA c .choiceType then
        if ← truthOf (← take c "_member_names_") then
          let title ← literalOf name
          throw (.badType ("<enum " ++ title ++ "> cannot extend " ++ (← literalOf c)))

/-- Makes an enumeration from what a class will hold, which has to know the names of its members. -/
def makeEnumeration (own : Obj) : Run Obj := do
  let mark := Obj.word "_ignore_"
  let ignored ← callAttribute own "setdefault" [mark, ← newList []]
  let _ ← callAttribute ignored "append" [mark]
  for key in ← elementsOf (← partUnder own mark) do
    let _ ← callAttribute own "pop" [key, .none]
  let _ ← take own "_member_names"
  notProvided "EnumType.__new__"

/-- A function of enumerations. -/
def choiceTypeFunction (name : String) (g : Given) : Run Obj := do
  let c := g.get "cls"
  match name with
  | "__dir__" => namesOfEnumeration c
  | "__call__" =>
    if g.get "names" == .none then callAttribute c "__new__" [c, g.get "value"]
    else
      let f ← take c "_create_"
      let keywords := ["module", "qualname", "type", "start", "boundary"].map fun n =>
        (Obj.word n, g.get n)
      call f ⟨[g.get "value", g.get "names"], keywords⟩
  | "_create_" => do
    let bases := if g.get "type" == .none then [c] else [g.get "type", c]
    refuseExtension (g.get "class_name") bases
    notProvided "EnumType._create_"
  | "__new__" => makeEnumeration (g.get "classdict")
  | "__bool__" => return .bool true
  | "__len__" => do newInt (← lengthOf (← take c "_member_names_"))
  | "__getitem__" => choiceNamed c (g.get "name")
  | "__getattr__" => do
    let key := g.get "name"
    let text := ((← get).text? key).getD ""
    if isReservedName text then throw (.noAttribute text)
    else
      match ← catching (fun e => e.isA .noKey) (choiceNamed c key) with
      | some m => return m
      | none => throw (.noAttribute text)
  | "__contains__" => do
    let x := g.get "member"
    if !(← isA x .choice) then
      let w ← get
      let theirs ← plainText (← take (w.typeOf x) "__qualname__")
      throw (.badType ("unsupported operand type(s) for 'in': '" ++ theirs ++ "' and '"
        ++ (← plainText (← take (← take c "__class__") "__qualname__")) ++ "'"))
    else if !(← isInstance x c) then return .bool false
    else
      let names ← elementsOf (← take c "_member_map_")
      return .bool (← isAmong (← take x "_name_") names)
  | "__iter__" => do newProducer name (← choicesOf c)
  | "__reversed__" => do newProducer name (← choicesOf c).reverse
  | "__repr__" => do newText ("<enum " ++ (← literalOf (← take c "__name__")) ++ ">")
  | "__members__" => do makeOf .readOnlyDict (.readOnly (← take c "_member_map_"))
  | "__setattr__" => do
    let key := g.get "name"
    let held := ((← get).ownTable c).get? "_member_map_"
    let names ← match held with
      | some map => elementsOf map
      | none => pure []
    if ← isAmong key names then
      throw (.noAttribute ("cannot reassign member " ++ (← literalOf key)))
    else changeChoices c key (some (g.get "value"))
  | "__delattr__" => do
    let key := g.get "attr"
    if ← isAmong key (← elementsOf (← take c "_member_map_")) then
      let title ← literalOf (← take c "__name__")
      throw (.noAttribute (title ++ " cannot delete member " ++ (← literalOf key) ++ "."))
    else changeChoices c key none
  | _ => notProvided ("EnumType." ++ name)

/-- A function of what enumerations have for their members and for themselves. -/
def choicePropertyFunction (name : String) (g : Given) : Run Obj := do
  let x := g.self
  let object := g.get "instance"
  let refuse (what : String) : Run Obj := do
    let owner ← literalOf (← take x "clsname")
    throw (.noAttribute ("<enum " ++ owner ++ "> cannot " ++ what ++ " attribute "
      ++ (← literalOf (← take x "name"))))
  match name with
  | "__get__" => do
    let owner := g.get "ownerclass"
    let getter ← take x "fget"
    if object == .none || getter == .none then
      let label ← take x "name"
      match ← catching (fun e => e.isA .noKey) (choiceNamed owner label) with
      | some m => return m
      | none => noChoice owner label
    else apply getter [object]
  | "__set__" => do
    let setter ← take x "fset"
    if setter == .none then refuse "set" else apply setter [object, g.get "value"]
  | "__delete__" => do
    let deleter ← take x "fdel"
    if deleter == .none then refuse "delete" else apply deleter [object]
  | "__set_name__" => do
    assign x "name" (some (g.get "name"))
    assign x "clsname" (some (← take (g.get "ownerclass") "__name__"))
    return .none
  | _ => notProvided ("property." ++ name)

end StubClass
