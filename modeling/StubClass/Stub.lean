import StubClass.Method.Look
import StubClass.Signature.Binding

set_option autoImplicit false

/-! # Generated members

A generated member holds its definition and the signature that its calls are checked against. A call
from inside is refused when its arguments do not fit, in words that show the signature as it looks
at that time; what it comes to otherwise is for others to resolve. -/

namespace StubClass

/-- A generated member. -/
structure Stub where
  definition : MethodDefinition
  /-- The signature of a call, without the receiver. -/
  signature : Signature

namespace Stub

/-- The member of a definition. The definition has to form a signature, to have a text for its name,
to be written in what documents the member, and to form a signature with the receiver too, looked at
in this order. -/
def create (d : MethodDefinition) : Except Error Stub :=
  match d.signature with
  | .error fault => .error (.malformedSignature fault)
  | .ok signature =>
    match d.name.text? with
    | none => .error .badFunctionName
    | some _ =>
      match d.written with
      | .error e => .error e
      | .ok _ =>
        match d.fullSignature with
        | .error fault => .error (.malformedSignature fault)
        | .ok _ => .ok ⟨d, signature⟩

/-- The error of a call whose arguments do not fit. It shows the signature as it looks then, or is
the error that the signature cannot be written. -/
def refusal (s : Stub) (look : Look) (fault : BindFault Name) : Error :=
  match (s.signature.looked look).written with
  | .ok text => .arity s.definition.name text fault
  | .error e => e

/-- Whether the arguments of a call fit, or the error of a call with them when objects have a
certain look. -/
def judge (s : Stub) (look : Look) (a : Arguments) : Except Error Unit :=
  match s.signature.bind a with
  | .error fault => .error (s.refusal look fault)
  | .ok () => .ok ()

/-- Whether the arguments of a call fit while objects look as they did when they were given. -/
def checkArguments (s : Stub) (a : Arguments) : Except Error Unit :=
  s.judge .plain a

/-- Calls the member from inside when objects have a certain look: arguments that do not fit are
refused, and if they fit the return value is resolved. -/
def invoke {m : Type → Type} [Monad m] (s : Stub) (look : Look) (resolve : m (Except Error Value))
    (a : Arguments) : m (Except Error Value) :=
  match s.judge look a with
  | .error e => return .error e
  | .ok () => resolve

end Stub

end StubClass
