import StubClass.Class.Building
import StubClass.Class.Finding
import StubClass.Member

set_option autoImplicit false

/-! # Built classes

A class holds something under each of its names, in the order in which the names were first given:
notes about itself and the like, and members. Members are told apart by their places, as one member
may be held by several classes. A class is made in one step of all that it will hold; some names
mean something to that step, and a member under one of them makes it fail. When the class is there,
the members that it holds are told that it is the one they were made for. -/

namespace StubClass

/-! ## What a class holds -/

/-- What a class holds under a name. -/
inductive Held where
  /-- A note about the class, or something else that is no member. -/
  | note (value : Value)
  /-- The member at a place. -/
  | member (place : Nat)
deriving Repr

/-- The place of the member that is held. -/
def Held.place? : Held → Option Nat
  | note _ => none
  | member place => some place

/-- What a class holds under its names, each of which is there once. -/
structure Namespace where
  entries : List (Name × Held)
deriving Repr

namespace Namespace

/-- What is held under a name. -/
def held? (own : Namespace) (name : Name) : Option Held :=
  (own.entries.find? fun e => e.1.same name).map (·.2)

/-- The place of the member that is held under a name. -/
def place? (own : Namespace) (name : Name) : Option Nat :=
  (own.held? name).bind Held.place?

/-- Puts something under a name. A name that is there keeps its place. -/
def put (own : Namespace) (name : Name) (x : Held) : Namespace :=
  ⟨putIn own.entries⟩
where
  /-- Puts it into entries. -/
  putIn : List (Name × Held) → List (Name × Held)
    | [] => [(name, x)]
    | e :: es => if e.1.same name then (e.1, x) :: es else e :: putIn es

/-- Takes a name away. -/
def remove (own : Namespace) (name : Name) : Namespace :=
  ⟨own.entries.filter fun e => !e.1.same name⟩

/-- Whether the member at a place is held. -/
def holds (own : Namespace) (place : Nat) : Bool :=
  own.entries.any fun e => e.2.place? == some place

end Namespace

/-- The module of the classes that are built. -/
def builtModule : String :=
  "code_generator.application.class_builder"

/-- What a class that is built within settings holds before any member. -/
def Settings.notes (settings : Settings) : Namespace :=
  ⟨[(.ofText "__module__", .note (.str builtModule)),
    (.ofText "__qualname__", .note settings.className.toValue),
    (.ofText "__doc__", .note (.str ("Generated stub class " ++ settings.className.text ++ ".")))]⟩

/-! ## Classes -/

/-- A class. -/
structure BuiltClass where
  title : Name
  /-- The name with which the class is found in its module. -/
  path : Name
  own : Namespace
deriving Repr

/-- All members that were made, and all classes. -/
structure Registry where
  members : List Member
  classes : List BuiltClass

namespace Registry

/-- The registry without members and classes. -/
def empty : Registry :=
  ⟨[], []⟩

/-- The name of the type of the member at a place. -/
def typeAt (r : Registry) (place : Nat) : BuiltinType :=
  (r.members[place]?.map Member.builtinType).getD .stubMethod

/-- Fails when a class is to hold a member under a name that means something to the making of
classes. The name that lists slots is looked at first, then that of the path, and that of a cell
last. -/
def checkReserved (r : Registry) (own : Namespace) : Except Error Unit :=
  let typeUnder (name : String) : Option BuiltinType := (own.place? (.ofText name)).map r.typeAt
  match typeUnder "__slots__", typeUnder "__qualname__", typeUnder "__classcell__" with
  | some t, _, _ => .error (.ordinary .badType ("'" ++ t.name ++ "' object is not iterable"))
  | none, some t, _ =>
    .error (.ordinary .badType ("type __qualname__ must be a str, not " ++ t.name))
  | none, none, some t =>
    .error (.ordinary .badType ("__classcell__ must be a nonlocal cell, not " ++ t.literal))
  | none, none, none => .ok ()

/-- The path of a class that is to hold something: it is noted there, or else the name is taken. -/
def pathOf (title : Name) (own : Namespace) : Name :=
  match own.held? (.ofText "__qualname__") with
  | some (.note v) => (Name.ofValue? v).getD title
  | _ => title

/-- Tells the members that a class holds that they were made for it. -/
def adopt (r : Registry) (own : Namespace) (place : Nat) : Registry :=
  { r with
    members := r.members.mapIdx fun i x =>
      if own.holds i then { x with owner := some place } else x }

/-- Makes a class of what it is to hold. -/
def make (r : Registry) (title : Name) (own : Namespace) : Except Error Registry := do
  r.checkReserved own
  let c : BuiltClass := ⟨title, pathOf title own, own.remove (.ofText "__qualname__")⟩
  return { r with classes := r.classes ++ [c] }.adopt c.own r.classes.length

/-! ## Building -/

/-- Makes the member of a definition and puts it under its name. -/
def add (settings : Settings) (sofar : List Member × Namespace) (d : MethodDefinition) :
    Except Error (List Member × Namespace) := do
  let x ← Member.create settings d
  match Name.ofValue? d.name with
  | none => throw .badFunctionName
  | some name => return (sofar.1 ++ [x], sofar.2.put name (.member sofar.1.length))

/-- How a class is built. -/
def building (r : Registry) (settings : Settings) (ds : List MethodDefinition) :
    Building (Except Error) MethodDefinition (List Member × Namespace) Registry where
  start := .ok (r.members, settings.notes)
  definitions := .ok ds
  add := add settings
  finish sofar _ := { r with members := sofar.1 }.make settings.className.toName sofar.2

/-- Builds a class of definitions within settings: the last of the classes then. -/
def build (r : Registry) (settings : Settings) (ds : List MethodDefinition) :
    Except Error Registry :=
  (r.building settings ds).run

/-! ## One class after another -/

/-- How a class comes about: it is built of definitions within settings, or made of all that it is
to hold, members of other classes among it. -/
inductive Creation where
  | build (settings : Settings) (ds : List MethodDefinition)
  | make (title : Name) (own : Namespace)

/-- Creates a class: the last of the classes then. -/
def create (r : Registry) : Creation → Except Error Registry
  | .build settings ds => r.build settings ds
  | .make title own => r.make title own

/-- Creates classes one after another. A creation that fails does so before any member is told of
its class. Left out are classes that fail behind that, when the class that they are derived from
refuses it: their members stay told of them. -/
def createAll (r : Registry) : List Creation → Registry
  | [] => r
  | c :: cs =>
    match r.create c with
    | .ok next => next.createAll cs
    | .error _ => r.createAll cs

/-! ## Members of a class -/

/-- The generated members among entries, with their names. Of several entries under one name the
first hides the others; `seen` are the names before. -/
def stubMembers : (seen : List Name) → List (Name × Held) → List (Name × Nat)
  | _, [] => []
  | seen, e :: es =>
    if seen.any e.1.same then stubMembers seen es
    else
      match e.2.place? with
      | some place => (e.1, place) :: stubMembers (e.1 :: seen) es
      | none => stubMembers (e.1 :: seen) es

/-- How the generated members of a class are found, by their names and places. The class is given
with those that it is derived from, along its order. -/
def finding (order : List BuiltClass) :
    Finding (StateM (List (Name × Nat))) BuiltClass (Name × Held) Name Held (List Name) where
  order := return order
  entries c := return c.own.entries
  parts e := return e
  unseen := []
  isSeen seen name := return seen.any name.same
  see seen name := return name :: seen
  isMember x := return x.place?.isSome
  keep name x := modify fun found => found ++ (x.place?.map fun place => (name, place)).toList

/-- The generated member that is found on a class under a name. The class is given with those that
it is derived from, along its order. -/
def memberOf? (r : Registry) (order : List BuiltClass) (name : Name) : Option Member :=
  (((stubMembers [] (order.flatMap fun c => c.own.entries)).find? fun e => e.1.same name).map
    (·.2)).bind fun place => r.members[place]?

/-- The visibility of the generated member that is found on a class under a name. -/
def visibilityOf (r : Registry) (order : List BuiltClass) (name : Name) :
    Except Error Visibility :=
  match r.memberOf? order name with
  | some x => .ok x.definition.visibility
  | none =>
    let title := ((order.head?.map BuiltClass.title).getD (.ofText "object")).toValue
    .error (.ordinary .noAttribute
      (title.literal ++ " has no generated member " ++ name.toValue.literal))

end Registry

end StubClass
