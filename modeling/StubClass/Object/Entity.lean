import StubClass.Builtin.Attributes
import StubClass.Object.Places
import StubClass.Random.Twister

set_option autoImplicit false

/-! # Objects

An object is one of the few that are there once, or an entity with a number. An entity has a class,
a body that its inner make decides, slots, and perhaps a dictionary of attributes, which is an
entity itself. Everything that a session makes is an entity: numbers, texts and containers, code and
functions, classes, and the objects of this library. -/

namespace StubClass

/-- An object. -/
inductive Obj where
  | none
  | bool (b : Bool)
  /-- Says that an operator does not know an operand. -/
  | unknownOperand
  | ellipsis
  /-- A text that is known by its characters. -/
  | word (text : String)
  /-- A built-in type. -/
  | type (t : BuiltinType)
  /-- What a built-in type holds under a name. -/
  | held (t : BuiltinType) (name : String)
  | entity (id : Nat)
deriving Repr, DecidableEq, Inhabited

/-- What a call is given: objects by position, and objects by keyword, in their order. -/
structure Operands where
  positional : List Obj
  keywords : List (Obj × Obj)
deriving Repr, DecidableEq, Inhabited

namespace Operands

/-- A call with objects by position. -/
def ofList (xs : List Obj) : Operands :=
  ⟨xs, []⟩

/-- The call with one more object in front. -/
def withFirst (a : Operands) (x : Obj) : Operands :=
  { a with positional := x :: a.positional }

/-- The call without its first objects. -/
def drop (a : Operands) (n : Nat) : Operands :=
  { a with positional := a.positional.drop n }

/-- Whether the call gives nothing. -/
def isEmpty (a : Operands) : Bool :=
  a.positional.isEmpty && a.keywords.isEmpty

end Operands

/-! ## Hashes and tables -/

/-- A hash: what is equal has the same one. -/
inductive Hash where
  | number (n : Int)
  | fraction (num : Int) (den : Nat)
  | notANumber (x : Obj)
  | text (text : String)
  | bytes (bs : List UInt8)
  | self (x : Obj)
  /-- The hash of something put together, by a mark of its sort. -/
  | parts (sort : String) (hs : List Hash)
deriving BEq, Inhabited

/-- An entry of a table. -/
structure Entry where
  hash : Hash
  key : Obj
  value : Obj
deriving Inhabited

/-- Keys with what stands under them, in the order in which the keys came. -/
abbrev Table := List Entry

namespace Table

/-- The entry of a text. -/
def textEntry (name : String) (x : Obj) : Entry :=
  ⟨.text name, .word name, x⟩

/-- The table of texts. -/
def ofTexts (entries : List (String × Obj)) : Table :=
  entries.map fun e => textEntry e.1 e.2

/-- What stands under a text. -/
def get? (t : Table) (name : String) : Option Obj :=
  (t.find? fun e => e.hash == .text name).map Entry.value

/-- Whether something stands under a text. -/
def holds (t : Table) (name : String) : Bool :=
  t.any fun e => e.hash == .text name

/-- Puts an object under a text: a text that is there keeps its place. -/
def put (t : Table) (name : String) (x : Obj) : Table :=
  if t.holds name then t.map fun e => if e.hash == .text name then { e with value := x } else e
  else t ++ [textEntry name x]

/-- Removes a text. -/
def erase (t : Table) (name : String) : Table :=
  t.filter fun e => !(e.hash == .text name)

/-- The objects of a table. -/
def values (t : Table) : List Obj :=
  t.map Entry.value

/-- The keys of a table. -/
def keys (t : Table) : List Obj :=
  t.map Entry.key

end Table

/-! ## Sets and iterators -/

/-- A place of a set. -/
inductive Spot where
  | free
  /-- What stood here was taken out. -/
  | left
  | taken (e : Entry)
deriving Inhabited

/-- The places of a set: where an object stands depends on its hash. -/
structure Scatter where
  spots : Array Spot := Array.replicate 8 .free
  /-- How many places are not free. -/
  filled : Nat := 0
  /-- Where an object is looked for to be taken out. -/
  finger : Nat := 0
deriving Inhabited

namespace Scatter

/-- What stands in the places of a set, in their order. -/
def entries (s : Scatter) : Table :=
  s.spots.toList.filterMap fun p =>
    match p with
    | .taken e => some e
    | _ => none

/-- How many objects a set has. -/
def size (s : Scatter) : Nat :=
  s.entries.length

end Scatter

/-- Where an iterator over a dictionary or a set stands. -/
structure Cursor where
  /-- What it goes through, as long as something may be left. -/
  of : Option Obj
  /-- The place that it comes to next. -/
  place : Int
  /-- How many entries are left. -/
  left : Nat
  /-- How many entries there have to be, unless that was wrong once. -/
  size : Option Nat
deriving Inhabited

/-- Where an iterator over a dictionary whose order counts stands. -/
structure OrderedCursor where
  /-- What it goes through, as long as something may be left. -/
  of : Option Obj
  /-- The iterators over a dictionary that give the same. -/
  like : BuiltinType
  /-- The keys that there have to be. -/
  keys : List Obj
  /-- The keys that are left. -/
  rest : List Obj
deriving Inhabited

/-! ## Code and functions -/

/-- What a piece of code does. -/
inductive CodeKind where
  /-- It is marked by a label and returns nothing. -/
  | labelled (label : String)
  /-- It takes anything and returns the object that it is closed over. -/
  | constant
  /-- It does what is known under a number from outside. -/
  | callback (id : Nat)
  /-- It takes a receiver and calls what was prepared for it. -/
  | prepared
  /-- It takes a receiver and calls the generated member that it is closed over. -/
  | stub
  /-- It returns the object that it is closed over. -/
  | literal
  /-- It draws a random value. -/
  | random
  /-- It makes an object anew of the parts that one was taken into. -/
  | rebuilding (name : String)
  /-- It is that of a function of this library. -/
  | library (t : BuiltinType) (name : String)
deriving Repr, DecidableEq, Inhabited

/-- A piece of code. -/
structure CodeBody where
  kind : CodeKind
  name : String
  qualifiedName : String
  /-- The code that is nested in it. -/
  nested : List Obj
  /-- The names that it is closed over. -/
  freeNames : List String
deriving Repr, DecidableEq, Inhabited

/-- A function: its code, the cells that the code is closed over, and what it says of itself. -/
structure FunctionBody where
  code : Obj
  closure : List Obj
  name : Obj
  qualifiedName : Obj
  doc : Obj
  moduleName : Obj
  defaults : Obj
  namedDefaults : Obj
  notes : Obj
deriving Inhabited

/-! ## Bodies -/

/-- A class. -/
structure ClassBody where
  name : Obj
  qualifiedName : Obj
  bases : List Obj
  /-- The class that gives its objects their inner make, among the bases. -/
  base : Obj
  /-- The resolution order, the class itself first. -/
  order : List Obj
  own : Table
  /-- The names of the slots that its objects have. -/
  slots : List String
  /-- Whether its objects are the first in the order that have a dictionary. -/
  opensDict : Bool
  /-- Whether its objects are the first in the order that can be referred to without being kept. -/
  opensReferences : Bool
  /-- Whether its objects cannot be made. -/
  isAbstract : Bool
deriving Inhabited

/-- A property: its accessors, its documentation, and the name that it was given in a class. -/
structure PropertyBody where
  getter : Obj
  setter : Obj
  deleter : Obj
  doc : Obj
  /-- Whether the documentation is that of the getter. -/
  docIsOfGetter : Bool
  label : Option Obj
deriving Inhabited

/-- How far an iterator that is made by code has come. -/
inductive Progress where
  | created
  | suspended
  | finished
deriving Repr, DecidableEq, Inhabited

/-- An iterator that is made by code: what it still gives, how far it has come, and its names. -/
structure ProducerBody where
  rest : List Obj
  progress : Progress
  name : Obj
  qualifiedName : Obj
  code : Obj
deriving Inhabited

/-- The inner make of an object. -/
inductive Body where
  | plain
  | int (n : Int)
  | float (x : Float)
  | complex (re im : Float)
  | str (text : String)
  | bytes (bs : List UInt8)
  | list (xs : List Obj)
  | tuple (xs : List Obj)
  | dict (entries : Table)
  | set (s : Scatter)
  /-- A view of a dictionary, or what a class holds, seen as a dictionary that is only read. -/
  | view (of : Obj)
  /-- What holds something under keys, seen so that it is only read. -/
  | readOnly (of : Obj)
  /-- An iterator over what is left of some objects. -/
  | iterator (rest : List Obj)
  /-- An iterator over a sequence, as long as something may be left, by the number of the next part.
  -/
  | sequenceIterator (of : Option Obj) (next : Int)
  | producer (p : ProducerBody)
  | tableIterator (c : Cursor)
  | orderedIterator (c : OrderedCursor)
  | function (f : FunctionBody)
  | code (c : CodeBody)
  /-- A callable with its receiver. -/
  | method (function receiver : Obj)
  /-- A method of a built-in type with its receiver, and the module that it says it is from. -/
  | builtinMethod (owner : BuiltinType) (name : String) (receiver : Obj) (moduleName : Obj)
  /-- What code is closed over, if it was given something. -/
  | cell (content : Option Obj)
  /-- A type with arguments, spread over the place where it stands or not. -/
  | applied (origin arguments : Obj) (isSpread : Bool)
  /-- Several types in one. -/
  | union (types : Obj)
  /-- What binds to the class, or to nothing. -/
  | binder (inner : Obj)
  | property (p : PropertyBody)
  /-- A call prepared in part. -/
  | partialCall (function : Obj) (positional : List Obj) (keywords : Obj)
  | classBody (c : ClassBody)
  /-- The access to a slot of the objects of a class. -/
  | slot (owner : Obj) (name : String)
  /-- The access to the dictionary of the objects of a class. -/
  | dictAccess (owner : Obj) (name : String)
  | twister (state : Random.Twister)
deriving Inhabited

/-- An entity. -/
structure Entity where
  cls : Obj
  body : Body
  /-- What stands in its slots, by the class that has the slot and its name. -/
  slots : List ((Obj × String) × Obj) := []
  /-- The dictionary of its attributes, if it was asked for. -/
  dict : Option Obj := Option.none
  /-- The places of its entries, if it is a dictionary and they did not just come one after another.
  -/
  places : Option Places := Option.none
  /-- Whether it stays apart from an equal object that is there once. -/
  isApart : Bool := false
deriving Inhabited

end StubClass
