import StubClass.Class.Reach
import StubClass.Method.Definition

set_option autoImplicit false

/-! # Landscapes of classes

What a check of access can see: finitely many objects, each of which is a layer around others or
not, may wrap another one, may have code, and may be a class with members and with classes derived
from it. Nothing is asked of how they hang together; objects may hold or wrap each other in circles.
Code is a tree, since it is made after the code among its constants, and counts as the same when it
looks the same. Objects that are asked may raise errors of their own, and a class may count as equal
to another one. -/

namespace StubClass

/-- A piece of code: what it says itself, and the code among its constants. -/
inductive Code where
  | mk (text : String) (nested : List Code)
deriving Repr

namespace Code

/-- The code among the constants. -/
def nested : Code → List Code
  | mk _ ks => ks

/-- Whether two pieces of code look the same, all the way down. -/
def same : Code → Code → Bool
  | mk a ks, mk b ls => a == b && sameAll ks ls
where
  /-- Whether pieces of code look the same one by one. -/
  sameAll : List Code → List Code → Bool
    | [], [] => true
    | k :: ks, l :: ls => k.same l && sameAll ks ls
    | _, _ => false

/-- The number of pieces of code in a piece of code. -/
def count : Code → Nat
  | mk _ ks => countAll ks + 1
where
  /-- The number of pieces of code in several ones. -/
  countAll : List Code → Nat
    | [] => 0
    | k :: ks => k.count + countAll ks

end Code

/-- What an object shows of itself. -/
structure Facet (α : Type) where
  /-- The name of a class. -/
  title : Name
  derived : List α
  members : List α
  layer? : Option (Layer α)
  wrapped? : Option α
  code? : Option Code

/-- What an object shows that is no class, no layer and no function. -/
def Facet.blank {α : Type} : Facet α :=
  ⟨.ofText "", [], [], none, none, none⟩

/-- Objects and what they show. -/
structure Landscape where
  size : Nat
  facet : Fin size → Facet (Fin size)

namespace Landscape

variable (L : Landscape)

/-- The number of pieces of code that the objects have. -/
def codeCount : Nat :=
  Code.count.countAll ((List.finRange L.size).filterMap fun x => (L.facet x).code?)

end Landscape

/-! ## Objects with a hand in the answers -/

/-- What an object is asked. -/
inductive Question where
  | title
  | derived
  | members
  | layer
  | wrapped
  | code
deriving Repr, DecidableEq

/-- A landscape whose objects have a hand in the answers: an object may raise an error of its own
when it is asked something, different objects may count as equal, and comparing them may raise an
error too. -/
structure RaisingLandscape extends Landscape where
  raised? : Question → Fin size → Option Error
  equal : Fin size → Fin size → Except Error Bool

namespace RaisingLandscape

variable (R : RaisingLandscape)

/-- The answer of an object to a question, which is what it shows or an error of its own. -/
def answer {β : Type} (q : Question) (x : Fin R.size) (shown : β) : Except Error β :=
  match R.raised? q x with
  | some e => .error e
  | none => .ok shown

/-- Whether an object is one of several, or counts as equal to one. -/
def isAmong (x : Fin R.size) : List (Fin R.size) → Except Error Bool
  | [] => .ok false
  | y :: ys => do
    if y = x then return true
    else if ← R.equal y x then return true
    else isAmong x ys

/-- How the objects are looked into. -/
def inspection : Inspection (Except Error) (Fin R.size) Code where
  layer? x := R.answer .layer x (R.facet x).layer?
  wrapped? x := R.answer .wrapped x (R.facet x).wrapped?
  isOne x y := .ok (x == y)
  code? x := R.answer .code x (R.facet x).code?
  nested k := .ok k.nested
  tooDeep := .error .tooManyLayers

/-- How a call of a member is checked. -/
def gate (d : MethodDefinition) (owner : Fin R.size) :
    Gate (Except Error) (Fin R.size) Code Code where
  toInspection := R.inspection
  isPublic := .ok d.visibility.isPublic
  isProtected := .ok (d.visibility == .protectedMember)
  below c := R.answer .derived c (R.facet c).derived
  isAmong := R.isAmong
  members c := R.answer .members c (R.facet c).members
  isCaller caller k := .ok (k.same caller)
  refuse := do
    throw (.access d.name d.visibility (← R.answer .title owner (R.facet owner).title))
  room := .ok (R.size + R.codeCount + 1)
  depth := .ok (R.size + 1)

/-- Fails unless a member may be called by code, or from nowhere. -/
def checkAccess (d : MethodDefinition) (owner : Fin R.size) (caller : Option Code) :
    Except Error Unit :=
  (R.gate d owner).check owner caller

end RaisingLandscape

/-! ## Plain answers -/

namespace Landscape

variable (L : Landscape)

/-- A landscape whose objects answer what they show, and are equal to themselves only. -/
def plain : RaisingLandscape where
  toLandscape := L
  raised? _ _ := none
  equal x y := .ok (x == y)

/-- How the objects are looked into when they answer what they show. -/
def inspection : Inspection (Except Error) (Fin L.size) Code :=
  L.plain.inspection

/-- How a call of a member is checked then. -/
def gate (d : MethodDefinition) (owner : Fin L.size) :
    Gate (Except Error) (Fin L.size) Code Code :=
  L.plain.gate d owner

/-- Fails unless a member may be called by code, or from nowhere. -/
def checkAccess (d : MethodDefinition) (owner : Fin L.size) (caller : Option Code) :
    Except Error Unit :=
  L.plain.checkAccess d owner caller

end Landscape

end StubClass
