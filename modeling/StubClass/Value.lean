import StubClass.Builtin
import StubClass.Parameter.Kind
import StubClass.Visibility

set_option autoImplicit false

/-! # Values

The values that a declaration may mention: as a name, as a default, as what a member returns. They
are trees of literals, types and the two enumerations of this library. -/

namespace StubClass

/-- A value. -/
inductive Value where
  | null
  | bool (b : Bool)
  | int (n : Int)
  | float (x : Float)
  | str (text : String)
  | symbol (text : String)
  | bytes (bs : List UInt8)
  | list (xs : List Value)
  | tuple (xs : List Value)
  | dict (entries : List (Value × Value))
  | type (t : BuiltinType)
  | kind (k : ParameterKind)
  | visibility (v : Visibility)
deriving Repr, Inhabited

namespace Value

/-- The built-in type of a value. -/
def builtinType : Value → BuiltinType
  | null => .none
  | bool _ => .bool
  | int _ => .int
  | float _ => .float
  | str _ => .str
  | symbol _ => .symbol
  | bytes _ => .bytes
  | list _ => .list
  | tuple _ => .tuple
  | dict _ => .dict
  | type _ => .type
  | kind _ => .parameterKind
  | visibility _ => .visibility

/-- The name of the type of a value. -/
def typeName (v : Value) : String :=
  v.builtinType.name

/-- The text of a value that is a text; a symbol is one. -/
def text? : Value → Option String
  | str text | symbol text => some text
  | _ => none

/-- Whether the value counts as true: everything does but nothing, zero and what is empty. -/
def truth : Value → Bool
  | null => false
  | bool b => b
  | int n => n != 0
  | float x => x != 0
  | str text | symbol text => !text.isEmpty
  | bytes bs => !bs.isEmpty
  | list xs | tuple xs => !xs.isEmpty
  | dict es => !es.isEmpty
  | type _ | kind _ | visibility _ => true

/-- Whether the value stands for the absence of a default where signatures are formed. -/
def isNoDefault : Value → Bool
  | type .noDefault => true
  | _ => false

end Value

/-! ## Markers -/

/-- The types that ask for a random value of their kind. -/
inductive Marker where
  | int
  | str
  | symbol
deriving Repr, DecidableEq, Inhabited

/-- The marker that a value is. A type counts by itself, so that of truth values is none. -/
def Value.marker? : Value → Option Marker
  | .type .int => some .int
  | .type .str => some .str
  | .type .symbol => some .symbol
  | _ => none

end StubClass
