import StubClass.Error
import StubClass.Value.Equality

set_option autoImplicit false

/-! # Parameters

A parameter has a kind, a name and a default. The default is kept whatever the kind and applied for
the two kinds that have one. One value is never applied: where signatures are formed it stands for
the absence of a default, and a parameter that has it is there of the kind without one. -/

namespace StubClass

/-- The kind that a value stands for: a kind itself or its word. -/
def ParameterKind.ofValue? : Value → Option ParameterKind
  | .kind k => some k
  | v => v.text?.bind ParameterKind.ofWord?

/-- The identifier that a value is, or the error that it is none, which shows the value. -/
def requireIdentifier (name : Value) (role : String) : Except Error Identifier :=
  match Identifier.ofValue? name with
  | some i => .ok i
  | none => .error (.showing name (.invalidIdentifier name role))

/-- One formal parameter of a generated member. -/
structure Parameter where
  kind : ParameterKind
  name : Identifier
  default : Value
deriving Repr

namespace Parameter

/-- The parameter of a kind and a name, given as values. The kind is looked at first. -/
def create (kind name default : Value) : Except Error Parameter :=
  match ParameterKind.ofValue? kind with
  | none => .error (.showing kind (.invalidParameterKind kind))
  | some k => (requireIdentifier name "parameter").map fun i => ⟨k, i, default⟩

/-- The kind that a parameter has where signatures are formed. -/
def effectiveKind (p : Parameter) : ParameterKind :=
  if p.default.isNoDefault then p.kind.withoutDefault else p.kind

/-- The parameter as it is where signatures are formed. -/
def effective (p : Parameter) : Parameter :=
  { p with kind := p.effectiveKind }

/-- The parameter as it is declared: `x`, `x = 1`, `x:` or `x: 1`. -/
def declarationChars (p : Parameter) : List Char :=
  let name := p.name.text.toList
  match p.kind with
  | .required => name
  | .optional => name ++ " = ".toList ++ p.default.chars
  | .keywordRequired => name ++ [':']
  | .keyword => name ++ ": ".toList ++ p.default.chars

/-- The parameter as it is declared, as a string. -/
def declaration (p : Parameter) : String :=
  String.ofList p.declarationChars

/-- Whether the parameter can be written as it is declared. -/
def isWritable (p : Parameter) : Bool :=
  !p.kind.hasDefault || p.default.isWritable

/-- The literal form of a parameter, which shows its three fields. -/
def literal (p : Parameter) : String :=
  "Parameter(kind=" ++ p.kind.literal ++ ", name=" ++ p.name.toValue.literal ++ ", default="
    ++ p.default.literal ++ ")"

/-- Whether two parameters are equal: the same kind, the same name and equal defaults. -/
def equal (p q : Parameter) : Bool :=
  p.kind == q.kind && p.name.toName.same q.name.toName && p.default.equal q.default

/-- The name of the type of the first part of a parameter that cannot be hashed. -/
def unhashable? (p : Parameter) : Option String :=
  p.default.unhashable?

end Parameter

end StubClass
