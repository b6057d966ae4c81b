import StubClass.Signature

set_option autoImplicit false

/-! # Method definitions

A definition is the finished description of one generated member: what it is called, who may call
it, what it takes and what it returns. It is a plain record; only a definition whose parameters form
signatures can become a member. -/

namespace StubClass

/-- The finished description of a generated member. -/
structure MethodDefinition where
  name : Value
  visibility : Visibility
  parameters : List Parameter
  returnValue : Value
  generateRandom : Bool
deriving Repr

/-- The name of the receiver of a member. -/
def Visibility.receiver (v : Visibility) : Identifier :=
  if v.isClassLevel then ⟨.ofText "cls", by decide +kernel⟩
  else ⟨.ofText "self", by decide +kernel⟩

/-- The slot of the receiver, which goes by position only. -/
def Visibility.receiverSlot (v : Visibility) : Slot :=
  ⟨.positionalOnly, v.receiver, none⟩

namespace MethodDefinition

/-- Whether every call returns a fresh random value: that has to be asked for, and the return value
has to be a marker. -/
def wantsRandom (d : MethodDefinition) : Bool :=
  d.generateRandom && d.returnValue.marker?.isSome

/-- The signature of the member as it is called, without the receiver. -/
def signature (d : MethodDefinition) : Except SignatureFault Signature :=
  Signature.ofSlots (d.parameters.map Parameter.slot)

/-- The signature of the underlying function, with the receiver in front. -/
def fullSignature (d : MethodDefinition) : Except SignatureFault Signature :=
  Signature.ofSlots (d.visibility.receiverSlot :: d.parameters.map Parameter.slot)

/-- The parameters as they were declared, between parentheses. -/
def declarationChars (d : MethodDefinition) : List Char :=
  '(' :: (Value.commaSeparated (d.parameters.map Parameter.declarationChars) ++ [')'])

/-- The parameters as they were declared, as a string. -/
def declaration (d : MethodDefinition) : String :=
  String.ofList d.declarationChars

/-- Whether the parameters can be written as they were declared. -/
def isWritable (d : MethodDefinition) : Bool :=
  d.parameters.all Parameter.isWritable

/-- The parameters as they were declared, or the error that one of them cannot be written. -/
def written (d : MethodDefinition) : Except Error String :=
  if d.isWritable then .ok d.declaration
  else .error (.ordinary .badValue (Number.tooManyDigits ""))

/-- The literal form of a definition, which shows its five fields. -/
def literal (d : MethodDefinition) : String :=
  let parameters := Value.tupleChars (d.parameters.map fun p => p.literal.toList)
  "MethodDefinition(name=" ++ d.name.literal ++ ", visibility=" ++ d.visibility.literal
    ++ ", parameters=" ++ String.ofList parameters ++ ", return_value=" ++ d.returnValue.literal
    ++ ", generate_random=" ++ (Value.bool d.generateRandom).literal ++ ")"

end MethodDefinition

end StubClass
