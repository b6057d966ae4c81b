import StubClass.Builtin.Document
import StubClass.Manual.Index
import StubClass.Object.World

set_option autoImplicit false

/-! # Classes of objects

Every object has a class, and every class a resolution order, along which names are looked up: the
first class that holds the name itself decides. The built-in types that cannot be changed hold what
their tables list; all other classes hold what they were given. -/

namespace StubClass

namespace World

/-! ## Classes -/

/-- The type of what stands under a name of a built-in type that cannot be changed. -/
def attributeType (t : BuiltinType) (name : String) : BuiltinType :=
  match t.attributeKind? name with
  | some .method => .methodAttribute
  | some .slot => .slotAttribute
  | some .computed => .computedAttribute
  | some .field => .fieldAttribute
  | some .classMethod => .classAttribute
  | some .free => .builtinMethod
  | some .function => .function
  | some .classFunction => .classMethod
  | some .accessor => .property
  | some .plain | some .member | none => .object

/-- The class of an object. -/
def typeOf (w : World) (x : Obj) : Obj :=
  match x with
  | .none => .type .none
  | .bool _ => .type .bool
  | .unknownOperand => .type .unknownOperand
  | .ellipsis => .type .ellipsis
  | .word _ => .type .str
  | .type t =>
    .type (if t.order.contains .choice then .choiceType else .type)
  | .held t name => .type (attributeType t name)
  | .entity id => ((w.heap[id]?).map Entity.cls).getD (.type .object)

/-- The resolution order of a class. -/
def orderOf (w : World) (c : Obj) : List Obj :=
  match w.class? c, c with
  | some b, _ => b.order
  | none, .type t => t.order.map .type
  | none, _ => []

/-- The bases of a class. -/
def basesOf (w : World) (c : Obj) : List Obj :=
  match w.class? c, c with
  | some b, _ => b.bases
  | none, .type t => t.base?.toList.map .type
  | none, _ => []

/-- Whether a class is another one or derived from it. -/
def derives (w : World) (c ancestor : Obj) : Bool :=
  c == ancestor || (w.orderOf c).contains ancestor

/-- Whether the class of an object is a class or derived from it, whatever the object says. -/
def isOf (w : World) (x : Obj) (t : BuiltinType) : Bool :=
  w.derives (w.typeOf x) (.type t)

/-- Whether the class of an object is just this type. -/
def isExactly (w : World) (x : Obj) (t : BuiltinType) : Bool :=
  w.typeOf x == .type t

/-! ## Names -/

/-- The name of a class. -/
def nameOf (w : World) (c : Obj) : Obj :=
  match w.class? c, c with
  | some b, _ => b.name
  | none, .type t => .word t.name
  | none, _ => .word ""

/-- The text of the name of a class. -/
def nameText (w : World) (c : Obj) : String :=
  (w.text? (w.nameOf c)).getD ""

/-- The name of a class in messages about its objects. -/
def titleOf (w : World) (c : Obj) : String :=
  match w.class? c, c with
  | none, .type t => t.title
  | _, c => w.nameText c

/-- The name of the class of an object. -/
def typeName (w : World) (x : Obj) : String :=
  w.nameText (w.typeOf x)

/-- The name of the class of an object in messages. -/
def typeTitle (w : World) (x : Obj) : String :=
  w.titleOf (w.typeOf x)

/-- The qualified name of a class. -/
def qualifiedNameOf (w : World) (c : Obj) : Obj :=
  match w.class? c with
  | some b => b.qualifiedName
  | none => w.nameOf c

/-- The text of the qualified name of a class. -/
def qualifiedText (w : World) (c : Obj) : String :=
  (w.text? (w.qualifiedNameOf c)).getD ""

/-- The module that a class says it is from, if it says so by a text. -/
def moduleOf? (w : World) (c : Obj) : Option String :=
  match w.class? c, c with
  | some b, _ => (b.own.get? "__module__").bind w.text?
  | none, .type t => some t.moduleName
  | none, _ => none

/-- A class as it is named in full. -/
def pathOf (w : World) (c : Obj) : String :=
  match w.moduleOf? c with
  | some m =>
    if m == BuiltinType.standardModule then w.titleOf c else m ++ "." ++ w.qualifiedText c
  | none => w.titleOf c

/-- The literal form of a class. -/
def classLiteral (w : World) (c : Obj) : String :=
  "<class '" ++ w.pathOf c ++ "'>"

/-- The literal form of an object of a class that gives none. -/
def plainLiteral (w : World) (x : Obj) : String :=
  "<" ++ w.pathOf (w.typeOf x) ++ " object at 0x?>"

/-! ## What classes hold -/

/-- What a built-in type that cannot be changed holds under a name. -/
def builtinHeld? (t : BuiltinType) (name : String) : Option Obj :=
  (t.attributeKind? name).map fun k =>
    if k != .plain then .held t name
    else
      match name with
      | "__doc__" => (t.doc?.map Obj.word).getD .none
      | "__module__" => .word t.moduleName
      | _ => .none

/-- What a class holds itself under a name. -/
def ownHeld? (w : World) (c : Obj) (name : String) : Option Obj :=
  match w.class? c, c with
  | some b, _ => b.own.get? name
  | none, .type t => builtinHeld? t name
  | none, _ => none

/-- All that a class holds itself. -/
def ownTable (w : World) (c : Obj) : Table :=
  match w.class? c, c with
  | some b, _ => b.own
  | none, .type t =>
    t.ownNames.filterMap fun n => (builtinHeld? t n).map (Table.textEntry n)
  | none, _ => []

/-- The class that holds a name along the resolution order of a class, and what it holds. -/
def lookUp? (w : World) (c : Obj) (name : String) : Option (Obj × Obj) :=
  (w.orderOf c).findSome? fun k => (w.ownHeld? k name).map fun x => (k, x)

/-- What a class finds under a name. -/
def find? (w : World) (c : Obj) (name : String) : Option Obj :=
  (w.lookUp? c name).map (·.2)

/-- What the class of an object finds under a name. -/
def special? (w : World) (x : Obj) (name : String) : Option Obj :=
  w.find? (w.typeOf x) name

/-- Whether an object can be called. -/
def isCallable (w : World) (x : Obj) : Bool :=
  (w.special? x "__call__").isSome

/-! ## Inner make -/

/-- Whether a class gives its objects an inner make of its own. -/
def addsLayout (w : World) (c : Obj) : Bool :=
  match c with
  | .type t => t.layout == t
  | c => ((w.class? c).map fun b => !b.slots.isEmpty).getD false

/-- The class that gives the objects of a class their inner make. -/
def layoutOf (w : World) (c : Obj) : Obj :=
  ((w.orderOf c).find? w.addsLayout).getD (.type .object)

/-- The built-in type that gives the objects of a class their inner make. -/
def makeTypeOf (w : World) (c : Obj) : BuiltinType :=
  ((w.orderOf c).findSome? fun k =>
    match k with
    | .type t => if t.layout == t then some t else none
    | _ => none).getD .object

/-- Whether the objects of a class have a dictionary of attributes. -/
def hasDict (w : World) (c : Obj) : Bool :=
  (w.orderOf c).any fun k =>
    match k with
    | .type t => t != .type && t.computedNames.contains "__dict__"
    | k => ((w.class? k).map ClassBody.opensDict).getD false

/-- Whether a class can be derived from another one. -/
def isOpen : Obj → Bool
  | .type t => t.isOpen
  | _ => true

/-! ## Identity -/

/-- Whether there is only one object of a class and a content. -/
def isSingle (w : World) (x : Obj) : Bool :=
  !((w.entity? x).any Entity.isApart) &&
  match w.typeOf x, w.body x with
  | .type .int, .int n => -5 ≤ n && n ≤ 256
  | .type .str, .str text =>
    match text.toList with
    | [] => true
    | [c] => c.toNat < 256
    | _ => false
  | .type .bytes, .bytes bs => bs.length ≤ 1
  | .type .tuple, .tuple xs => xs.isEmpty
  | _, _ => false

/-- Whether two objects are one. -/
def identical (w : World) (x y : Obj) : Bool :=
  x == y ||
    (w.isSingle x && w.isSingle y &&
      match w.body x, w.body y with
      | .int m, .int n => m == n
      | .str s, .str t => s == t
      | .bytes s, .bytes t => s == t
      | .tuple [], .tuple [] => true
      | _, _ => false)

/-! ## Derived classes -/

/-- The classes directly derived from a class, in the order in which they came. -/
def derivedFrom (w : World) (c : Obj) : List Obj :=
  let known := match c with
    | .type t => (BuiltinType.all.filter fun d => d.base? == some t).map Obj.type
    | _ => []
  known ++ (w.derived.filter fun e => e.1 == c).map (·.2)

end World

end StubClass
