import StubClass.Error
import StubClass.Object.Entity

set_option autoImplicit false

/-! # The world of a session

All that a session has made: the entities in the order in which they came, the classes of the
built-in types that can be changed, which class is derived from which, and names for objects. A part
of a session changes the world and fails or gives a result; it knows from where it was called, and
how to call anything else. -/

namespace StubClass

/-! ## Failures -/

/-- What a failure is an instance of. -/
inductive FailureKind where
  | ordinary (c : ErrorClass)
  | declared (k : ErrorKind)
deriving Repr, DecidableEq, Inhabited

/-- A failure of a part of a session: its kind and wording, the attributes of a declared error, and
the failure that it was raised for. -/
structure Failure where
  kind : FailureKind
  message : String
  attributes : List (String × Obj) := []
  cause : Option (FailureKind × String) := none
deriving Inhabited

namespace Failure

/-- A failure of an ordinary class. -/
def ordinary (c : ErrorClass) (message : String) : Failure :=
  { kind := .ordinary c, message }

/-- The class of errors that a failure stands under. -/
def errorClass (e : Failure) : ErrorClass :=
  match e.kind with
  | .ordinary c => c
  | .declared k => k.base

/-- Whether a failure is an instance of a class of errors. -/
def isA (e : Failure) (c : ErrorClass) : Bool :=
  e.errorClass.isUnder c

/-- Whether a failure says that there is no attribute of a name. -/
def isMissing (e : Failure) : Bool :=
  e.isA .noAttribute

/-- Whether a failure says that an object is not of the right type. -/
def isBadType (e : Failure) : Bool :=
  e.isA .badType

/-- An object that is not as it has to be. -/
def badType (message : String) : Failure :=
  .ordinary .badType message

/-- An object of the right type that is not as it has to be. -/
def badValue (message : String) : Failure :=
  .ordinary .badValue message

/-- An attribute that cannot be taken, set or removed. -/
def noAttribute (message : String) : Failure :=
  .ordinary .noAttribute message

/-- What goes on without an end. -/
def tooDeep : Failure :=
  .ordinary .recursion "maximum recursion depth exceeded"

/-- Calls that go on without an end. -/
def tooManyCalls : Failure :=
  .ordinary .recursion "maximum recursion depth exceeded while calling a Python object"

/-- The failure of an operation on values. -/
def ofError (e : Error) : Failure :=
  match e.report?, e.ordinary? with
  | none, some (c, text) => .ordinary c text
  | some r, _ => { kind := .declared r.kind, message := r.message }
  | none, none => .ordinary .badValue ""

/-- Layers around each other without an end. -/
def tooManyLayers : Failure :=
  .ofError .tooManyLayers

end Failure

/-! ## Worlds -/

/-- The world of a session. -/
structure World where
  heap : Array Entity
  /-- The classes of the built-in types that can be changed. -/
  types : List (BuiltinType × ClassBody)
  /-- Classes with those that were derived from them, in the order in which they came. -/
  derived : List (Obj × Obj)
  /-- What was worked out of an object under a name and stays the same object. -/
  kept : List ((Obj × String) × Obj)
  names : List (String × Obj)
  /-- Pieces of code by their labels. -/
  codes : List (String × Obj)
  log : List String
  /-- The choices of system sources. -/
  choices : Nat → Nat
  /-- How many choices have been used. -/
  used : Nat

/-- The code that runs, or nothing when that is outside of all that is known. -/
abbrev Frame := Option Obj

/-- Where a part of a session runs. -/
structure Place where
  frame : Frame := none
  /-- The objects that are being written out. -/
  depicting : List Obj := []

/-- A part of a session without its surroundings. -/
abbrev Bare := EStateM Failure World

/-- What surrounds a part of a session. -/
structure Context where
  /-- Calls an object from a place. -/
  call : Obj → Operands → Place → Bare Obj
  /-- Does what is known under a number from outside. -/
  callback : Nat → Operands → Place → Bare Obj
  place : Place

/-- A part of a session. What was changed before a failure stays changed. -/
abbrev Run := ReaderT Context Bare

/-- Calls an object. -/
def call (f : Obj) (a : Operands) : Run Obj :=
  fun c => c.call f a c.place

/-- Does what is known under a number from outside. -/
def callBack (number : Nat) (a : Operands) : Run Obj :=
  fun c => c.callback number a c.place

/-- Calls an object with objects by position. -/
def apply (f : Obj) (xs : List Obj) : Run Obj :=
  call f (.ofList xs)

/-- Runs a part as the code of a frame. -/
def within {α : Type} (frame : Frame) (r : Run α) : Run α :=
  fun c => r { c with place := { c.place with frame } }

/-- Runs a part while an object is written out. -/
def depicting {α : Type} (x : Obj) (r : Run α) : Run α :=
  fun c => r { c with place := { c.place with depicting := x :: c.place.depicting } }

/-- Passes a result on or fails with its error. -/
def orThrow {α : Type} : Except Error α → Run α
  | .ok a => return a
  | .error e => throw (.ofError e)

/-- What a part comes to, or nothing if it fails in a certain way. -/
def catching {α : Type} (isCaught : Failure → Bool) (r : Run α) : Run (Option α) :=
  tryCatch (some <$> r) fun e => if isCaught e then pure none else throw e

/-- What a part comes to, or nothing if it fails for an attribute that is not there. -/
def optional {α : Type} (r : Run α) : Run (Option α) :=
  catching Failure.isMissing r

namespace World

/-! ## Entities -/

/-- The entity that an object is. -/
def entity? (w : World) : Obj → Option Entity
  | .entity id => w.heap[id]?
  | _ => none

/-- The body of an object. -/
def body (w : World) (x : Obj) : Body :=
  match x with
  | .word text => .str text
  | .bool b => .int (if b then 1 else 0)
  | x => ((w.entity? x).map Entity.body).getD .plain

/-- The text that an object is. -/
def text? (w : World) (x : Obj) : Option String :=
  match w.body x with
  | .str text => some text
  | _ => none

/-- The whole number that an object is. -/
def whole? (w : World) (x : Obj) : Option Int :=
  match w.body x with
  | .int n => some n
  | _ => none

/-- The table of a dictionary. -/
def table? (w : World) (x : Obj) : Option Table :=
  match w.body x with
  | .dict t => some t
  | _ => none

/-- The parts of a list or a tuple. -/
def parts? (w : World) (x : Obj) : Option (List Obj) :=
  match w.body x with
  | .list xs | .tuple xs => some xs
  | _ => none

/-- The class that an object is. -/
def class? (w : World) (x : Obj) : Option ClassBody :=
  match x with
  | .type t => w.types.lookup t
  | x =>
    match w.body x with
    | .classBody c => some c
    | _ => none

/-- Whether an object is a class. -/
def isClass (w : World) (x : Obj) : Bool :=
  match x with
  | .type _ => true
  | x => (w.class? x).isSome

/-- The function that an object is. -/
def function? (w : World) (x : Obj) : Option FunctionBody :=
  match w.body x with
  | .function f => some f
  | _ => none

/-- The code that an object is. -/
def code? (w : World) (x : Obj) : Option CodeBody :=
  match w.body x with
  | .code c => some c
  | _ => none

end World

/-! ## Making and changing entities -/

/-- Adds an entity. -/
def make (e : Entity) : Run Obj :=
  modifyGet fun w => (.entity w.heap.size, { w with heap := w.heap.push e })

/-- Adds an entity of a built-in type. -/
def makeOf (t : BuiltinType) (b : Body) : Run Obj :=
  make { cls := .type t, body := b }

/-- Changes an entity. -/
def change (x : Obj) (f : Entity → Entity) : Run Unit :=
  match x with
  | .entity id => modify fun w => { w with heap := w.heap.modify id f }
  | _ => return ()

/-- The places of the entries of a dictionary when it has another table. -/
def Entity.placesAfter (e : Entity) (before after : Table) : Option Places :=
  let n := before.length
  let m := after.length
  if m == n then e.places
  else if m == n + 1 then e.places.map Places.push
  else if m + 1 == n && m != 0 then
    let differs (p : Entry × Entry) : Bool := p.1.key != p.2.key
    let index := ((before.zip after).findIdx? differs).getD m
    some ((e.places.getD (Places.ofCount n)).erase index)
  else none

/-- An entity with another body. -/
def Entity.withBody (e : Entity) (b : Body) : Entity :=
  match e.body, b with
  | .dict before, .dict after => { e with body := b, places := e.placesAfter before after }
  | _, b => { e with body := b }

/-- Gives an entity another body. -/
def putBody (x : Obj) (b : Body) : Run Unit :=
  change x fun e => e.withBody b

/-- Changes a class. -/
def changeClass (c : Obj) (f : ClassBody → ClassBody) : Run Unit :=
  match c with
  | .type t =>
    modify fun w => { w with
      types := w.types.map fun e => if e.1 == t then (e.1, f e.2) else e }
  | c => change c fun e =>
    match e.body with
    | .classBody b => { e with body := .classBody (f b) }
    | _ => e

/-- Changes what a class holds. -/
def changeOwn (c : Obj) (f : Table → Table) : Run Unit :=
  changeClass c fun b => { b with own := f b.own }

/-- A whole number. -/
def newInt (n : Int) : Run Obj :=
  makeOf .int (.int n)

/-- A floating point number. -/
def newFloat (x : Float) : Run Obj :=
  makeOf .float (.float x)

/-- A text. -/
def newText (text : String) : Run Obj :=
  makeOf .str (.str text)

/-- A text that stays apart from every other one. -/
def newTextApart (text : String) : Run Obj :=
  make { cls := .type .str, body := .str text, isApart := !text.isEmpty }

/-- Bytes that stay apart from all others. -/
def newBytesApart (bs : List UInt8) : Run Obj :=
  make { cls := .type .bytes, body := .bytes bs, isApart := !bs.isEmpty }

/-- Bytes. -/
def newBytes (bs : List UInt8) : Run Obj :=
  makeOf .bytes (.bytes bs)

/-- A list. -/
def newList (xs : List Obj) : Run Obj :=
  makeOf .list (.list xs)

/-- A tuple. -/
def newTuple (xs : List Obj) : Run Obj :=
  makeOf .tuple (.tuple xs)

/-- A dictionary. -/
def newDict (t : Table) : Run Obj :=
  makeOf .dict (.dict t)

/-- A callable with its receiver. -/
def newMethod (f receiver : Obj) : Run Obj :=
  makeOf .method (.method f receiver)

/-- A method of a built-in type with its receiver. -/
def newBuiltinMethod (t : BuiltinType) (name : String) (receiver : Obj) : Run Obj :=
  makeOf (if t.attributeKind? name == some .slot then .slotMethod else .builtinMethod)
    (.builtinMethod t name receiver .none)

/-- What is worked out of an object under a name, once. -/
def keeping (x : Obj) (name : String) (r : Run Obj) : Run Obj := do
  match (← get).kept.lookup (x, name) with
  | some y => return y
  | none =>
    let y ← r
    modify fun w => { w with kept := ((x, name), y) :: w.kept }
    return y

/-- Forgets what was worked out of an object under a name. -/
def forget (x : Obj) (name : String) : Run Unit :=
  modify fun w => { w with kept := w.kept.filter fun e => e.1 != (x, name) }

/-! ## Names and the log -/

/-- Stores an object under a name. -/
def store (name : String) (x : Obj) : Run Unit :=
  modify fun w => { w with names := (name, x) :: w.names.filter fun e => e.1 != name }

/-- The object under a name. -/
def objectNamed (name : String) : Run Obj := do
  match (← get).names.lookup name with
  | some x => return x
  | none => throw (.ordinary .unknownName name)

/-- Adds a line to the log. -/
def addLog (line : String) : Run Unit :=
  modify fun w => { w with log := w.log ++ [line] }

end StubClass
