import StubClass.Class.Order
import StubClass.Ordinary.Making
import StubClass.Text.Identifier

set_option autoImplicit false

/-! # Making and changing classes

A class is made of a name, bases and what it holds. Its own class is the most derived one among
those of its bases, one of the bases gives its objects their inner make, and all bases together give
its resolution order. What it holds is told its name there, and the nearest ancestor that wants to
know is told of the new class. Bases can be exchanged later as far as objects keep their make. -/

namespace StubClass

/-! ## Bases -/

/-- The class of a class with some bases: the most derived one of theirs. -/
def classOfClass (kind : Obj) (bases : List Obj) : Run Obj := do
  let w ← get
  bases.foldlM (fun winner b =>
    let k := w.typeOf b
    if w.derives winner k then return winner
    else if w.derives k winner then return k
    else
      throw (.badType ("metaclass conflict: the metaclass of a derived class must be a "
        ++ "(non-strict) subclass of the metaclasses of all its bases"))) kind

/-- The base that gives objects their inner make, after the best one so far. -/
def bestBaseFrom (best : Option (Obj × Obj)) : List Obj → Run Obj
  | [] => return (best.map (·.2)).getD (.type .object)
  | b :: bs => do
    let w ← get
    if !w.isClass b then throw (.badType "bases must be types")
    else if !World.isOpen b then
      throw (.badType ("type '" ++ Text.clip 100 (w.titleOf b)
        ++ "' is not an acceptable base type"))
    else
      let make := w.layoutOf b
      match best with
      | none => bestBaseFrom (some (make, b)) bs
      | some (before, _) =>
        if w.derives before make then bestBaseFrom best bs
        else if w.derives make before then bestBaseFrom (some (make, b)) bs
        else throw (.badType "multiple bases have instance lay-out conflict")

/-- The base that gives the objects of a class their inner make. -/
def bestBase (bases : List Obj) : Run Obj :=
  bestBaseFrom none bases

/-- The resolution order behind a class with some bases. -/
def orderBehind (bases : List Obj) : Run (List Obj) := do
  let w ← get
  match repeated? bases with
  | some b => throw (.badType ("duplicate base class " ++ w.nameText b))
  | none =>
    match ancestorOrder w.orderOf bases with
    | .ok order => return order
    | .error heads =>
      throw (.badType (Text.trim 999 ("Cannot create a consistent method resolution\n"
        ++ "order (MRO) for bases " ++ commaJoined (heads.map w.nameText))))
where
  /-- The first object that comes again. -/
  repeated? : List Obj → Option Obj
    | [] => none
    | b :: bs => if bs.contains b then some b else repeated? bs

/-! ## Slots -/

/-- The slots that a class asks for, and whether it asks for a dictionary and for references that
do not keep its objects. -/
structure SlotPlan where
  names : List String
  opensDict : Bool
  opensReferences : Bool

/-- The name of a slot as a class keeps it: a private name has that of the class in front. -/
def mangled (className name : String) : String :=
  let bare := String.ofList (className.toList.dropWhile (· == '_'))
  if !name.startsWith "__" || name.endsWith "__" || bare.isEmpty || name.toList.contains '.' then
    name
  else "_" ++ bare ++ name

/-- Reads the names of slots one after another. -/
def readSlots (mayOpenDict mayOpenReferences : Bool) (plan : SlotPlan) : List Obj → Run SlotPlan
  | [] => return plan
  | x :: xs => do
    let w ← get
    match w.text? x with
    | none =>
      throw (.badType ("__slots__ items must be strings, not '" ++ Text.clip 200 (w.typeTitle x)
        ++ "'"))
    | some name =>
      if !Text.isIdentifierShape name.toList then
        throw (.badType "__slots__ must be identifiers")
      else if name == "__dict__" then
        if !mayOpenDict || plan.opensDict then
          throw (.badType "__dict__ slot disallowed: we already got one")
        else readSlots mayOpenDict mayOpenReferences { plan with opensDict := true } xs
      else if name == "__weakref__" then
        if !mayOpenReferences || plan.opensReferences then
          throw (.badType ("__weakref__ slot disallowed: either we already got one, or "
            ++ "__itemsize__ != 0"))
        else readSlots mayOpenDict mayOpenReferences { plan with opensReferences := true } xs
      else
        readSlots mayOpenDict mayOpenReferences { plan with names := plan.names ++ [name] } xs

/-- Whether the objects of a class have parts behind their make, so that nothing can be kept there.
-/
def World.isOpenEnded (w : World) (c : Obj) : Bool :=
  [BuiltinType.int, .tuple, .bytes, .type].contains (w.makeTypeOf c)

/-- Whether the objects of a class can be referred to without being kept. -/
def World.hasReferences (w : World) (c : Obj) : Bool :=
  (w.orderOf c).any fun k =>
    match k with
    | .type t =>
      t.computedNames.contains "__weakref__" || [BuiltinType.type, .function, .set].contains t
    | k => (w.class? k).any ClassBody.opensReferences

/-- The slots of a class that is made. -/
def planSlots (className : String) (base : Obj) (own : Table) : Run SlotPlan := do
  let w ← get
  let mayOpenDict := !w.hasDict base && w.makeTypeOf base != .type
  let mayOpenReferences := !w.hasReferences base && !w.isOpenEnded base
  match own.get? "__slots__" with
  | none => return ⟨[], mayOpenDict, mayOpenReferences⟩
  | some slots => do
    let names ← if (w.text? slots).isSome then pure [slots] else elementsOf slots
    if !names.isEmpty && w.isOpenEnded base then
      throw (.badType ("nonempty __slots__ not supported for subtype of '" ++ w.titleOf base
        ++ "'"))
    else
      let plan ← readSlots mayOpenDict mayOpenReferences ⟨[], false, false⟩ names
      let kept := plan.names.map (mangled className)
      match kept.find? fun n => n != "__qualname__" && n != "__classcell__" && own.holds n with
      | some n =>
        throw (.badValue ((Value.str n).literal ++ " in __slots__ conflicts with class variable"))
      | none => return { plan with names := kept.eraseDups.mergeSort fun a b => a ≤ b }

/-! ## Telling -/

/-- Tells what a class holds its name there. -/
def tellNames (c : Obj) : Table → Run Unit
  | [] => return ()
  | e :: es => do
    match (← get).special? e.value "__set_name__" with
    | none => pure ()
    | some hook => do
      let key ← literalOf e.key
      let _ ← tryCatch (callHook e.value hook [c, e.key]) fun fault => do
        let w ← get
        throw { kind := .ordinary .runtime
                message := "Error calling __set_name__ on '"
                  ++ Text.clip 100 (w.typeTitle e.value) ++ "' instance " ++ key ++ " in '"
                  ++ Text.clip 100 (w.nameText c) ++ "'"
                cause := some (fault.kind, fault.message) }
    tellNames c es

/-- Tells the nearest ancestor that wants to know of a class derived from it. -/
def tellAncestor (c : Obj) (keywords : List (Obj × Obj)) : Run Unit := do
  let w ← get
  match ((w.orderOf c).drop 1).findSome? fun k => w.ownHeld? k "__init_subclass__" with
  | some held => do
    let _ ← call (← bindHeld held none c) ⟨[], keywords⟩
  | none => return ()

/-- Notes which classes a class is derived from. -/
def noteDerived (c : Obj) (bases : List Obj) : Run Unit :=
  modify fun w => { w with derived := w.derived ++ bases.map fun b => (b, c) }

/-! ## Making -/

/-- A function under one of the names that the machinery knows is taken as a static one or as one of
the class. -/
def dressEntry (e : Entry) : Run Entry := do
  let w ← get
  let dress (t : BuiltinType) : Run Entry := do
    let d ← makeOf t (.binder .none)
    setUpBinder t.name d (.ofList [e.value])
    return { e with value := d }
  if !w.isExactly e.value .function then return e
  else
    match w.text? e.key with
    | some "__new__" => dress .staticMethod
    | some "__init_subclass__" | some "__class_getitem__" => dress .classMethod
    | _ => return e

/-- The qualified name of a class that is made. -/
def qualifiedNameIn (name : Obj) (own : Table) : Run Obj := do
  match own.get? "__qualname__" with
  | none => return name
  | some x => do
    let w ← get
    if (w.text? x).isSome then return x
    else throw (.badType ("type __qualname__ must be a str, not " ++ w.typeTitle x))

/-- The resolution order of a new class; its own class may have a way of its own to find it. -/
def orderOfNew (kind c : Obj) (bases : List Obj) : Run (List Obj) := do
  match (← get).find? kind "mro" with
  | some (.held _ _) | none => return c :: (← orderBehind bases)
  | some hook => do elementsOf (← apply (← bindHeld hook (some c) kind) [])

/-- Makes a class with bases that are known to fit. -/
def makeClassOn (kind name : Obj) (bases : List Obj) (own : Table) (keywords : List (Obj × Obj)) :
    Run Obj := do
  let base ← bestBase bases
  let className := ((← get).text? name).getD ""
  let plan ← planSlots className base own
  if className.toList.contains '\x00' then
    throw (.badValue "type name must not contain null characters")
  else
    let own := if own.holds "__module__" then own
      else own.put "__module__" (.word BuiltinType.box.moduleName)
    let qualifiedName ← qualifiedNameIn name own
    let own ← (own.erase "__qualname__").mapM dressEntry
    let c ← makeOfClass kind (.classBody
      { name, qualifiedName, bases, base, order := [], own, slots := plan.names,
        opensDict := plan.opensDict, opensReferences := plan.opensReferences,
        isAbstract := false })
    for n in plan.names do
      let member ← makeOf .fieldAttribute (.slot c n)
      changeOwn c fun t => t.put n member
    for (n, isOpened) in [("__dict__", plan.opensDict), ("__weakref__", plan.opensReferences)] do
      if isOpened then
        let accessor ← makeOf .computedAttribute (.dictAccess c n)
        changeOwn c fun t => if t.holds n then t else t.put n accessor
    changeOwn c fun t => if t.holds "__doc__" then t else t.put "__doc__" .none
    changeOwn c fun t =>
      if t.holds "__eq__" && !t.holds "__hash__" then t.put "__hash__" .none else t
    let order ← orderOfNew kind c bases
    changeClass c fun b => { b with order }
    noteDerived c bases
    tellNames c ((← get).ownTable c)
    tellAncestor c keywords
    return c

/-- Makes a class in the way of all classes. -/
def makeClass (kind : Obj) (a : Operands) : Run Obj := do
  match a.positional with
  | [name, bases, own] => do
    let w ← get
    let refuse (which : String) (x : Obj) : Run Obj :=
      throw (.badType ("type.__new__() argument " ++ which ++ ", not "
        ++ w.argumentTitle x))
    match w.text? name, w.body bases, w.table? own with
    | none, _, _ => refuse "1 must be str" name
    | some _, .tuple bs, some t => do
      let winner ← classOfClass kind bs
      match w.find? winner "__new__" with
      | some (.held .type _) | none =>
        makeClassOn winner name (if bs.isEmpty then [.type .object] else bs) t a.keywords
      | some _ =>
        if winner == kind then
          makeClassOn winner name (if bs.isEmpty then [.type .object] else bs) t a.keywords
        else call (← take winner "__new__") (a.withFirst winner)
    | _, .tuple _, none => refuse "3 must be dict" own
    | _, _, _ => refuse "2 must be tuple" bases
  | xs =>
    throw (.badType ("type.__new__() takes exactly 3 arguments (" ++ counted xs.length
      ++ " given)"))

/-! ## Keeping the make -/

/-- Whether a class was made, or is one of a library type, so that it can be changed. -/
def World.isChangeable (w : World) (c : Obj) : Bool :=
  (w.class? c).isSome

/-- The class whose objects have the same make as those of a class: bases are left out as long as
the class adds nothing to them; `fuel` bounds how many there are. -/
def World.coreOf (w : World) : (fuel : Nat) → Obj → Obj
  | 0, c => c
  | fuel + 1, c =>
    match w.class? c with
    | none => c
    | some b =>
      let addsNothing := b.slots.isEmpty && !b.opensDict && !b.opensReferences
        && (match c with
          | .type t => t.fieldNames.isEmpty && !t.computedNames.contains "__dict__"
          | _ => true)
      if addsNothing && w.isChangeable b.base then w.coreOf fuel b.base else c

/-- Whether two classes with the same base add the same to it. -/
def World.addsSame (w : World) (c d : Obj) : Bool :=
  match w.class? c, w.class? d with
  | some b, some e =>
    b.base == e.base && b.slots == e.slots && b.opensReferences == e.opensReferences
      && (b.opensDict == e.opensDict || !b.slots.isEmpty)
      && !(w.isOpenEnded b.base && (b.opensDict || e.opensDict))
  | _, _ => false

/-- Whether the objects of a class are taken back by what looks for cycles. -/
def World.isCollected (w : World) (c : Obj) : Bool :=
  w.isChangeable c ||
    match c with
    | .type t =>
      [BuiltinType.list, .dict, .tuple, .set, .function, .method, .type, .classMethod,
        .staticMethod, .property, .partialCall, .readOnlyDict].contains t
    | _ => false

/-- Refuses to put a class in the place of another one if their objects are not of the same make. -/
def requireSameMake (what : String) (old new : Obj) : Run Unit := do
  let w ← get
  let refuse (words : String) : Run Unit :=
    throw (.badType (what ++ " assignment: '" ++ w.titleOf new ++ "' " ++ words ++ " differs from '"
      ++ w.titleOf old ++ "'"))
  let c := w.coreOf w.heap.size new
  let d := w.coreOf w.heap.size old
  if w.isCollected new != w.isCollected old then refuse "deallocator"
  else if c == d || w.addsSame c d then return ()
  else refuse "object layout"

/-! ## Changing classes -/

/-- Gives an object another class. -/
def writeClass (x : Obj) (y : Option Obj) : Run Unit := do
  let w ← get
  match y with
  | none => throw (.badType "can't delete __class__ attribute")
  | some c =>
    if !w.isClass c then
      throw (.badType ("__class__ must be set to a class, not '" ++ w.typeTitle c ++ "' object"))
    else if !(w.isChangeable c && w.isChangeable (w.typeOf x)) then
      throw (.badType
        "__class__ assignment only supported for mutable types or ModuleType subclasses")
    else do
      requireSameMake "__class__" (w.typeOf x) c
      change x fun e => { e with cls := c }

/-- Works out the resolution orders of classes again, and those of all that are derived from them;
`fuel` bounds how many there are. -/
def renewOrders : (fuel : Nat) → List Obj → Run Unit
  | 0, _ => return ()
  | _, [] => return ()
  | fuel + 1, c :: cs => do
    let w ← get
    let order ← orderOfNew (w.typeOf c) c (w.basesOf c)
    changeClass c fun b => { b with order }
    forget c "__mro__"
    renewOrders fuel (w.derivedFrom c ++ cs)

/-- Gives a class other bases. -/
def writeBases (c y : Obj) : Run Unit := do
  let w ← get
  let name := w.nameText c
  match w.body y with
  | .tuple [] =>
    throw (.badType ("can only assign non-empty tuple to " ++ name ++ ".__bases__, not ()"))
  | .tuple bases => do
    for b in bases do
      if !w.isClass b then
        throw (.badType (name ++ ".__bases__ must be tuple of classes, not '" ++ w.typeTitle b
          ++ "'"))
      if w.derives b c then
        throw (.badType "a __bases__ item causes an inheritance cycle")
    let base ← bestBase bases
    let old := ((w.class? c).map ClassBody.base).getD (.type .object)
    requireSameMake "__bases__" old base
    changeClass c fun b => { b with bases, base }
    tryCatch (renewOrders w.heap.size [c]) fun e => do
      set w
      throw e
    forget c "__bases__"
    modify fun w => { w with
      kept := ((c, "__bases__"), y) :: w.kept
      derived := w.derived.filter fun e => e.2 != c }
    noteDerived c bases
  | _ =>
    throw (.badType ("can only assign tuple to " ++ name ++ ".__bases__, not " ++ w.typeTitle y))

/-- Changes a field of a class, or removes it. -/
def writeClassField (c : Obj) (name : String) (y : Option Obj) : Run Unit := do
  let w ← get
  match name, y with
  | "__name__", none | "__qualname__", none | "__module__", none | "__doc__", none
  | "__bases__", none =>
    throw (.badType ("cannot delete '" ++ name ++ "' attribute of immutable type '" ++ w.titleOf c
      ++ "'"))
  | "__name__", some y | "__qualname__", some y => writeClassName c name y
  | "__bases__", some y => writeBases c y
  | "__module__", some y | "__doc__", some y | "__annotations__", some y =>
    changeOwn c fun t => t.put name y
  | "__abstractmethods__", some y => do
    let isAbstract ← truthOf y
    changeOwn c fun t => t.put name y
    changeClass c fun b => { b with isAbstract }
  | "__abstractmethods__", none | "__annotations__", none =>
    if (w.ownTable c).holds name then do
      changeOwn c fun t => t.erase name
      if name == "__abstractmethods__" then
        changeClass c fun b => { b with isAbstract := false }
    else throw (.noAttribute name)
  | _, _ => throw (notWritable .type name)

end StubClass
