import StubClass.Method.Definition

set_option autoImplicit false

/-! # Building a method definition

A builder collects the parts of one definition by verbs. Parameters come in the order of a call:
required ones, optional ones, then those given by keyword; names are not used twice, and the name of
the receiver is taken from the start. A verb that would break this fails and changes nothing. -/

namespace StubClass

/-- The visibility that a value stands for: a visibility itself or its word. -/
def Visibility.ofValue? : Value → Option Visibility
  | .visibility v => some v
  | v => v.text?.bind Visibility.ofWord?

/-- A step in building a definition. -/
inductive Verb where
  /-- Appends a parameter. -/
  | parameter (kind : ParameterKind) (name default : Value)
  /-- Sets the return value, which may be a marker. -/
  | returns (value : Value)
  /-- Asks for random values, or for none when the value does not count as true. -/
  | generate (enabled : Value)
deriving Repr

/-- A method definition in the making. -/
structure MethodBuilder where
  name : Identifier
  visibility : Visibility
  parameters : List Parameter
  returnValue : Value
  generateRandom : Bool
deriving Repr

namespace MethodBuilder

/-- The builder without any parts. -/
def empty (name : Identifier) (visibility : Visibility) : MethodBuilder :=
  ⟨name, visibility, [], .null, false⟩

/-- The builder of a name and a visibility, given as values. A name between double underscores is
refused: such names belong to the class machinery. -/
def create (name visibility : Value) : Except Error MethodBuilder :=
  match requireIdentifier name "method" with
  | .error e => .error e
  | .ok i =>
    if i.isReserved then .error (.showing name (.invalidIdentifier name "method"))
    else
      match Visibility.ofValue? visibility with
      | none => .error (.showing visibility (.invalidVisibility visibility))
      | some v => .ok (empty i v)

/-- The literal form of a builder. -/
def literal (b : MethodBuilder) : String :=
  "MethodConfig(" ++ b.name.toValue.literal ++ ", " ++ (Value.str b.visibility.word).literal ++ ")"

/-- Whether a name is used by a parameter or by the receiver. -/
def takes (b : MethodBuilder) (name : Name) : Bool :=
  name.same b.visibility.receiver.toName || b.parameters.any fun p => p.name.toName.same name

/-- The rule of order that a parameter of a kind breaks after the last one. -/
def orderFault? (b : MethodBuilder) (kind : ParameterKind) : Option OrderRule :=
  match b.parameters.getLast? with
  | none => none
  | some last =>
    if !kind.isKeyword && last.kind.isKeyword then some .positionalAfterKeyword
    else if kind == .required && last.kind == .optional then some .requiredAfterOptional
    else none

/-- Appends a parameter. -/
def append (b : MethodBuilder) (p : Parameter) : Except Error MethodBuilder :=
  if b.takes p.name.toName then .error (.duplicateParameter b.name.toName p.name.toName)
  else
    match b.orderFault? p.kind with
    | some rule => .error (.parameterOrder b.name.toName p.name.toName rule)
    | none => .ok { b with parameters := b.parameters ++ [p] }

/-- Applies a verb. -/
def apply (b : MethodBuilder) : Verb → Except Error MethodBuilder
  | .parameter kind name default =>
    match Parameter.create (.kind kind) name default with
    | .error e => .error e
    | .ok p => b.append p
  | .returns value => .ok { b with returnValue := value }
  | .generate enabled => .ok { b with generateRandom := enabled.truth }

/-- The definition built so far. -/
def freeze (b : MethodBuilder) : MethodDefinition :=
  ⟨b.name.toValue, b.visibility, b.parameters, b.returnValue, b.generateRandom⟩

/-- Applies verbs one after another, going on after those that fail: the builder at the end, and
what each verb came to. -/
def run (b : MethodBuilder) : List Verb → MethodBuilder × List (Except Error Nat)
  | [] => (b, [])
  | verb :: verbs =>
    match b.apply verb with
    | .error e =>
      let (last, steps) := b.run verbs
      (last, .error e :: steps)
    | .ok next =>
      let (last, steps) := next.run verbs
      (last, .ok next.parameters.length :: steps)

/-- Applies verbs one after another, up to the first that fails. -/
def applyAll (b : MethodBuilder) : List Verb → Except Error MethodBuilder
  | [] => .ok b
  | verb :: verbs =>
    match b.apply verb with
    | .error e => .error e
    | .ok next => next.applyAll verbs

end MethodBuilder

end StubClass
