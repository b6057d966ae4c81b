import StubClass.Class.Order
import StubClass.Formal.Shape
import StubClass.Generator.Sending
import StubClass.Member

set_option autoImplicit false

/-! # Attributes of objects and classes

A subject is an object or a class that attributes are taken of. Under a name there may be a
generated member, or something else, which is known by what it does as an attribute alone. What an
object keeps itself is never a generated member. An attribute is taken as the classes of the subject
want it, and called by some code; from inside a member is looked for without asking any of them, and
whatever else is there is called by the code that looked. -/

namespace StubClass

open StubClass.Random (Source)

/-! ## Arguments on their way -/

/-- What is left of the arguments of a call for a function that takes more, with so many things in
front of them. -/
def Arguments.through (a : Arguments) (formals : List Formal) (front : Nat) :
    Except CallFault Arguments := do
  let positional := List.replicate (front + a.positional.length) ()
  let _ ← Formal.takeAll formals positional (a.keywords.map fun k => (k.1.text, ()))
  return ⟨a.positional.drop (formals.countP Formal.goesByPosition - front),
    a.keywords.filter fun k => !Formal.takesKeyword formals (some k.1.text)⟩

/-- Asks a source, and may fail. -/
abbrev Inquiry := ExceptT Error (StateM Source)

/-- What answers a call by some code. -/
abbrev Callee := Code → Arguments → Inquiry Value

namespace Member

variable (x : Member)

/-- The name of the function of a member, in messages. -/
def functionName (scene : Scene) : String :=
  let path := match x.owner with
    | some place => (scene.landscape.facet (scene.classAt place)).title.text ++ "."
    | none => ""
  path ++ x.definition.name.plain

/-- Calls the function of a member, with so many things in front of the arguments; one of these, or
else the first argument, is what the member is called on. -/
def call (look : Look) (scene : Scene) (front : Nat) (a : Arguments) : Inquiry Value :=
  match a.through Shape.ofMember.formals front with
  | .error fault => throw (.call (x.functionName scene) fault)
  | .ok rest => ExceptT.mk (x.perform look (.call scene) rest)

end Member

/-! ## Subjects -/

/-- Something that is no generated member, by what it is as an attribute. -/
structure Thing where
  /-- Whether it decides over an attribute even if the object keeps one itself. -/
  decides : Bool
  /-- What it is as an attribute of an object that keeps it. -/
  kept : Callee
  /-- What some code gets of it when it is found on the class of a subject, or on the subject. -/
  taken : (onSubject : Bool) → Code → Inquiry Callee

/-- What stands under a name of a class. -/
inductive Standing where
  | member (x : Member)
  | thing (x : Thing)

/-- Whether it decides over an attribute even if the object keeps one itself; members never do. -/
def Standing.decides : Standing → Bool
  | member _ => false
  | thing x => x.decides

/-- What a class holds. -/
structure Holder where
  entries : List (Name × Standing)
  /-- Whether one can look without asking: the class of the class does not hide what it holds. -/
  isOpen : Bool

namespace Holder

/-- What is held under a name by the first of some classes that holds anything there. -/
def held? (holders : List Holder) (name : Name) : Option Standing :=
  holders.findSome? fun h => (h.entries.find? fun e => e.1.same name).map (·.2)

/-- What is found there without asking. -/
def heldOpenly? (holders : List Holder) (name : Name) : Option Standing :=
  held? (holders.filter isOpen) name

end Holder

/-- An object or a class that attributes are taken of. -/
structure Subject where
  isClass : Bool
  /-- Whether it says that it is a class though it is none. -/
  pretends : Bool
  /-- Its literal form, as the code of calls from inside gets it. -/
  literal : Inquiry String
  /-- What objects look like that it mentions. -/
  look : Look
  /-- The classes around it, with its own class as that of the receiver; a class is its own. -/
  surroundings : Scene
  /-- The class of a class. -/
  metaclass : Fin surroundings.landscape.size
  /-- The class of a value; a class is its own. -/
  classOf : Value → Fin surroundings.landscape.size
  /-- What an object keeps itself. -/
  own : List (Name × Thing)
  /-- Whether one cannot look at that without asking. -/
  isShadowed : Bool
  /-- Its class with those that this is derived from; for a class they start with itself. -/
  order : List Holder
  /-- The class of a class with those that this is derived from. -/
  kind : List Holder
  /-- What is asked for every attribute instead. -/
  hook? : Option (Name → Code → Inquiry Callee)
  /-- What is asked for the attributes that are missing. -/
  fallback? : Option (Name → Code → Inquiry Callee)

namespace Subject

variable (s : Subject)

/-- Whether it is taken for a class by those who ask. -/
def passesForClass : Bool :=
  s.isClass || s.pretends

/-- The scene in which some code calls. -/
def scene (caller : Code) : Scene :=
  { s.surroundings with caller }

/-- What an object keeps itself under a name. -/
def own? (name : Name) : Option Thing :=
  (s.own.find? fun e => e.1.same name).map (·.2)

/-! ## Taking attributes -/

/-- What is taken of something that stands on the class of a subject, for a receiver of a class. -/
def bound (receiver : Fin s.surroundings.landscape.size) (caller : Code) :
    Standing → Inquiry Callee
  | .member x => return fun caller => x.call s.look { s.surroundings with caller, receiver } 1
  | .thing x => x.taken false caller

/-- What is taken of something that stands on a class itself. A member that is not bound to classes
is called on the first argument. -/
def unbound (caller : Code) : Standing → Inquiry Callee
  | .member x =>
    if x.bindsToClass then return fun caller => x.call s.look (s.scene caller) 1
    else
      return fun caller a =>
        let receiver := (a.positional.head?.map s.classOf).getD s.surroundings.receiver
        x.call s.look { s.surroundings with caller, receiver } 0 a
  | .thing x => x.taken true caller

/-- Takes an attribute in the way that all objects share, or all classes. -/
def takePlainly (name : Name) (caller : Code) : Inquiry Callee :=
  let title := Text.clip 50 (s.surroundings.landscape.facet s.surroundings.receiver).title.text
  if s.isClass then
    match preferred? Standing.decides (Holder.held? s.order name) (Holder.held? s.kind name) with
    | some (.inl x) => s.unbound caller x
    | some (.inr (.member x)) =>
      s.bound (if x.bindsToClass then s.metaclass else s.surroundings.receiver) caller (.member x)
    | some (.inr (.thing x)) => x.taken false caller
    | none =>
      throw (.ordinary .noAttribute ("type object '" ++ title ++ "' has no attribute '"
        ++ name.text ++ "'"))
  else
    match preferred? Standing.decides (s.own? name) (Holder.held? s.order name) with
    | some (.inl x) => return x.kept
    | some (.inr x) => s.bound s.surroundings.receiver caller x
    | none => throw (.noAttribute title name.text)

/-- Takes an attribute. -/
def take (name : Name) (caller : Code) : Inquiry Callee :=
  let direct := match s.hook? with
    | some hook => hook name caller
    | none => s.takePlainly name caller
  match s.fallback? with
  | some fallback =>
    tryCatch direct fun e => if e.isMissing then fallback name caller else throw e
  | none => direct

/-- Takes an attribute and calls it. -/
def callAttribute (name : Name) (caller : Code) (a : Arguments) : Inquiry Value := do
  let f ← s.take name caller
  f caller a

/-! ## Calls from inside -/

/-- What is found under a name without asking anybody. -/
def found? (name : Name) : Option Standing :=
  if s.isClass then (Holder.heldOpenly? s.order name).or (Holder.heldOpenly? s.kind name)
  else
    let own := if s.isShadowed then none else s.own? name
    (preferred? Standing.decides own (Holder.heldOpenly? s.order name)).map
      (Sum.elim Standing.thing id)

/-- The generated member that is found under a name without asking anybody, if it is one. -/
def member? (name : Name) : Option Member :=
  match s.found? name with
  | some (.member x) => some x
  | _ => none

/-- The code of calls from inside. -/
def insideCode : Code :=
  .mk "send" []

/-- How a call from inside goes, once the arguments are there. -/
def sending (name : Name) (a : Arguments) : Sending Inquiry Member Value where
  member? := return s.member? name
  bindsToClass x := return x.bindsToClass
  isOnClass := return s.passesForClass
  refuse bindsToClass := do
    let what := if bindsToClass then "Class" else "Instance"
    throw (.ordinary .noAttribute (what ++ " method " ++ name.toValue.literal
      ++ " is not callable on " ++ (← s.literal)))
  invoke x := ExceptT.mk (x.invoke s.look x.resolver.resolve a)
  callAttribute := s.callAttribute name insideCode a

/-- Calls a member of a subject from inside, or any other attribute like everyone does. -/
def send (name : Name) (a : Arguments) : Inquiry Value :=
  match a.through Shape.ofSending.formals 2 with
  | .error fault => throw (.call "send" fault)
  | .ok rest => (s.sending name rest).run

end Subject

end StubClass
