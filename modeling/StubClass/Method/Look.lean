import StubClass.Method.Builder
import StubClass.Signature

set_option autoImplicit false

/-! # What objects look like now

The lists and dictionaries that a definition mentions are objects, which others may have as well and
may change in place. A definition keeps the objects themselves. So a list or a dictionary stands for
the object that is known by it, as long as it can be written, and a look tells what the objects look
like at some time. Whenever a text is made of values, they are written as they look then; what is
kept and what is returned are the objects. -/

namespace StubClass

/-- What objects look like, by what they are known by. An object stays of its type. -/
structure Look where
  now : Value → Value
  builtinType_now : ∀ v, (now v).builtinType = v.builtinType

/-- Everything looks like what it is known by. -/
def Look.plain : Look :=
  ⟨id, fun _ => rfl⟩

namespace Value

/-- Whether a value stands for an object that may change. -/
def isObject : Value → Bool
  | list xs => (list xs).isWritable
  | dict es => (dict es).isWritable
  | _ => false

mutual

/-- What a value looks like. -/
def looked (look : Look) : Value → Value
  | tuple xs => tuple (lookedAll look xs)
  | v => if v.isObject then look.now v else v

/-- What several values look like. -/
def lookedAll (look : Look) : List Value → List Value
  | [] => []
  | x :: xs => x.looked look :: lookedAll look xs

end

mutual

/-- Whether an object that may change is the value or a part of it that goes along with it. -/
def holdsObject : Value → Bool
  | tuple xs => holdObject xs
  | v => v.isObject

/-- Whether one of several values holds an object that may change. -/
def holdObject : List Value → Bool
  | [] => false
  | x :: xs => x.holdsObject || holdObject xs

end

end Value

/-- What a parameter looks like. -/
def Parameter.looked (look : Look) (p : Parameter) : Parameter :=
  { p with default := p.default.looked look }

/-- What a slot looks like. -/
def Slot.looked (look : Look) (s : Slot) : Slot :=
  { s with default := s.default.map (Value.looked look) }

/-- What a definition looks like, as far as it is written. -/
def MethodDefinition.looked (look : Look) (d : MethodDefinition) : MethodDefinition :=
  { d with parameters := d.parameters.map (Parameter.looked look) }

/-- What a verb is given, where a builder takes it as it looks at once. -/
def Verb.looked (look : Look) : Verb → Verb
  | parameter kind name default => parameter kind (name.looked look) default
  | returns value => returns value
  | generate enabled => generate (enabled.looked look)

namespace Signature

/-- What a signature looks like. -/
def looked (look : Look) (s : Signature) : Signature :=
  ⟨s.slots.map (Slot.looked look)⟩

/-- Whether a signature can be written. -/
def isWritable (s : Signature) : Bool :=
  s.slots.all fun slot => slot.default.all Value.isWritable

/-- The written signature, or the error that a default cannot be written. -/
def written (s : Signature) : Except Error String :=
  if s.isWritable then .ok s.text else .error (.ordinary .badValue (Number.tooManyDigits ""))

end Signature

end StubClass
