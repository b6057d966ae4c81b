import StubClass.Builtin.Attributes
import StubClass.Formal
import StubClass.Value.Number

set_option autoImplicit false

/-! # What methods of built-in types take

The parameters of the methods of built-in types that tell them, without the object itself. Not every
method does, and a few tell them in a form that cannot be read. -/

namespace StubClass

namespace Formal

/-- A parameter that goes by position only. -/
def positionalOnly (name : String) : Formal :=
  ⟨.positionalOnly, .ofText name, none, none⟩

/-- A parameter that goes by position only and has a default. -/
def positionalOr (name : String) (default : Value) : Formal :=
  ⟨.positionalOnly, .ofText name, some default, none⟩

/-- A parameter that goes by keyword only and has a default. -/
def namedOr (name : String) (default : Value) : Formal :=
  ⟨.keywordOnly, .ofText name, some default, none⟩

end Formal

namespace BuiltinType

open Formal

/-- The parameters of what operators and the machinery call. -/
def slotFormals (name : String) : List Formal :=
  match name with
  | "__repr__" | "__str__" | "__hash__" | "__len__" | "__bool__" | "__iter__" | "__int__"
  | "__float__" | "__index__" | "__abs__" | "__neg__" | "__pos__" | "__invert__" => []
  | "__call__" | "__init__" => anything
  | "__getattribute__" | "__delattr__" => [positionalOnly "name"]
  | "__setattr__" => [positionalOnly "name", positionalOnly "value"]
  | "__get__" => [positionalOnly "instance", positionalOr "owner" .null]
  | "__set__" => [positionalOnly "instance", positionalOnly "value"]
  | "__delete__" => [positionalOnly "instance"]
  | "__getitem__" | "__contains__" | "__delitem__" => [positionalOnly "key"]
  | "__setitem__" => [positionalOnly "key", positionalOnly "value"]
  | "__pow__" | "__rpow__" => [positionalOnly "value", positionalOr "mod" .null]
  | _ => [positionalOnly "value"]

/-- The parameters of a method that every object has. -/
def objectFormals? (name : String) : Option (List Formal) :=
  match name with
  | "__dir__" | "__getstate__" | "__reduce__" | "__sizeof__" => some []
  | "__format__" => some [positionalOnly "format_spec"]
  | "__reduce_ex__" => some [positionalOnly "protocol"]
  | _ => Option.none

/-- The parameters of a method of all classes. -/
def typeFormals? (name : String) : Option (List Formal) :=
  match name with
  | "mro" | "__subclasses__" | "__dir__" | "__sizeof__" => some []
  | "__instancecheck__" => some [positionalOnly "instance"]
  | "__subclasscheck__" => some [positionalOnly "subclass"]
  | _ => Option.none

/-- The parameters of a method of numbers. -/
def numberFormals? (t : BuiltinType) (name : String) : Option (List Formal) :=
  match t, name with
  | int, "to_bytes" =>
    some [.optional "length" (.int 1), .optional "byteorder" (.str "big"),
      namedOr "signed" (.bool false)]
  | int, "from_bytes" =>
    some [required "bytes", .optional "byteorder" (.str "big"), namedOr "signed" (.bool false)]
  | int, "bit_length" | int, "bit_count" | int, "as_integer_ratio" | int, "__sizeof__"
  | float, "as_integer_ratio" | float, "is_integer" | float, "hex" | float, "conjugate"
  | float, "__ceil__" | float, "__floor__" | float, "__trunc__" | int, "__getnewargs__"
  | float, "__getnewargs__" | complex, "conjugate" | complex, "__complex__"
  | complex, "__getnewargs__" => some []
  | _, "__format__" => some [positionalOnly "format_spec"]
  | float, "__round__" => some [positionalOr "ndigits" .null]
  | float, "fromhex" => some [positionalOnly "string"]
  | float, "__getformat__" => some [positionalOnly "typestr"]
  | _, _ => Option.none

/-- The parameters of a method that texts and bytes have in common; `fill` and `strip` are what
their own parameters stand for. -/
def sequenceFormals? (fill : Value) (strip name : String) : Option (List Formal) :=
  match name with
  | "center" | "ljust" | "rjust" => some [positionalOnly "width", positionalOr "fillchar" fill]
  | "strip" | "lstrip" | "rstrip" => some [positionalOr strip .null]
  | "split" | "rsplit" => some [.optional "sep" .null, .optional "maxsplit" (.int (-1))]
  | "splitlines" => some [.optional "keepends" (.bool false)]
  | "expandtabs" => some [.optional "tabsize" (.int 8)]
  | "partition" | "rpartition" => some [positionalOnly "sep"]
  | "removeprefix" => some [positionalOnly "prefix"]
  | "removesuffix" => some [positionalOnly "suffix"]
  | "replace" => some [positionalOnly "old", positionalOnly "new", positionalOr "count" (.int (-1))]
  | "zfill" => some [positionalOnly "width"]
  | "encode" | "decode" =>
    some [.optional "encoding" (.str "utf-8"), .optional "errors" (.str "strict")]
  | _ => Option.none

/-- The parameters of a method of texts. -/
def textFormals? (name : String) : Option (List Formal) :=
  match name with
  | "upper" | "lower" | "capitalize" | "casefold" | "swapcase" | "title" | "isalnum" | "isalpha"
  | "isascii" | "isdecimal" | "isdigit" | "isidentifier" | "islower" | "isnumeric" | "isprintable"
  | "isspace" | "istitle" | "isupper" | "__sizeof__" => some []
  | "join" => some [positionalOnly "iterable"]
  | "translate" => some [positionalOnly "table"]
  | "__format__" => some [positionalOnly "format_spec"]
  | _ => sequenceFormals? (.str " ") "chars" name

/-- The parameters of a method of bytes. -/
def bytesFormals? (name : String) : Option (List Formal) :=
  match name with
  | "__bytes__" => some []
  | "join" => some [positionalOnly "iterable_of_bytes"]
  | "translate" => some [positionalOnly "table", .optional "delete" (.bytes [])]
  | "fromhex" => some [positionalOnly "string"]
  | "maketrans" => some [positionalOnly "frm", positionalOnly "to"]
  | _ => sequenceFormals? (.bytes [32]) "bytes" name

/-- The parameters of a method of containers. -/
def containerFormals? (t : BuiltinType) (name : String) : Option (List Formal) :=
  match t, name with
  | dict, "get" | dict, "setdefault" => some [positionalOnly "key", positionalOr "default" .null]
  | dict, "popitem" | dict, "__reversed__" => some []
  | dict, "__contains__" => some [positionalOnly "key"]
  | dict, "fromkeys" => some [positionalOnly "iterable", positionalOr "value" .null]
  | dict, _ => Option.none
  | tuple, "__getnewargs__" | list, "clear" | list, "copy" | list, "reverse"
  | list, "__reversed__" | list, "__sizeof__" => some []
  | _, "index" =>
    some [positionalOnly "value", positionalOr "start" (.int 0),
      positionalOr "stop" (.int Value.maxSize)]
  | _, "count" => some [positionalOnly "value"]
  | list, "append" => some [positionalOnly "object"]
  | list, "extend" => some [positionalOnly "iterable"]
  | list, "insert" => some [positionalOnly "index", positionalOnly "object"]
  | list, "pop" => some [positionalOr "index" (.int (-1))]
  | list, "remove" => some [positionalOnly "value"]
  | list, "sort" => some [namedOr "key" .null, namedOr "reverse" (.bool false)]
  | _, _ => Option.none

/-- The parameters of a method of a type, if it tells them. -/
def methodFormals? (t : BuiltinType) (name : String) : Option (List Formal) :=
  match t with
  | object => objectFormals? name
  | type => typeFormals? name
  | int | float | complex => numberFormals? t name
  | str => textFormals? name
  | bytes => bytesFormals? name
  | list | tuple | dict => containerFormals? t name
  | _ => Option.none

/-- The parameters of what a type holds under a name, if it tells them. -/
def formals? (t : BuiltinType) (name : String) : Option (List Formal) :=
  match t.attributeKind? name with
  | some .slot => some (slotFormals name)
  | some .method | some .classMethod => t.methodFormals? name
  | some .free => if name == "__new__" then some anything else t.methodFormals? name
  | _ => Option.none

/-- Whether a method tells its parameters in a form that cannot be read. -/
def isMistold (t : BuiltinType) (name : String) : Bool :=
  match t, name with
  | dict, "pop" | bytes, "hex" | int, "__round__" | str, "maketrans" => true
  | _, _ => false

/-- The parameters of making an object of a type, if it tells them. -/
def creation? : BuiltinType → Option (List Formal)
  | list | tuple => some [positionalOr "iterable" (.tuple [])]
  | float => some [positionalOr "x" (.int 0)]
  | complex => some [.optional "real" (.int 0), .optional "imag" (.int 0)]
  | object => some []
  | _ => Option.none

end BuiltinType

end StubClass
