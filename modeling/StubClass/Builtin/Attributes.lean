import StubClass.Builtin

set_option autoImplicit false

/-! # Attributes of built-in types

Which names the built-in types hold, and what stands under them. A type holds the names listed for
it alone; what it has from the type that it is derived from is found there. -/

namespace StubClass

/-- What stands under a name of a built-in type. -/
inductive AttributeKind where
  /-- Called on an object of the type. -/
  | method
  /-- What an operator or the machinery calls on an object. -/
  | slot
  /-- A value that is worked out from the object. -/
  | computed
  /-- A value that is kept in the object. -/
  | field
  /-- Called on the type itself. -/
  | classMethod
  /-- A function that is bound to nothing. -/
  | free
  /-- A function of this library, called on an object. -/
  | function
  /-- A function of this library, called on the type itself. -/
  | classFunction
  /-- A value that a function of this library works out from the object. -/
  | accessor
  /-- A value. -/
  | plain
  /-- What is put there once the members of an enumeration are made. -/
  | member
deriving Repr, DecidableEq, Inhabited

namespace BuiltinType

/-- What a type holds, in its order: names one after another under which things of one kind stand.
-/
def rows : BuiltinType → List (AttributeKind × List String)
  | object =>
    [(.free, ["__new__"]),
     (.slot, ["__repr__", "__hash__", "__str__", "__getattribute__", "__setattr__", "__delattr__",
       "__lt__", "__le__", "__eq__", "__ne__", "__gt__", "__ge__", "__init__"]),
     (.method, ["__reduce_ex__", "__reduce__", "__getstate__"]),
     (.classMethod, ["__subclasshook__", "__init_subclass__"]),
     (.method, ["__format__", "__sizeof__", "__dir__"]),
     (.computed, ["__class__"]),
     (.plain, ["__doc__"])]
  | type =>
    [(.free, ["__new__"]),
     (.slot, ["__repr__", "__call__", "__getattribute__", "__setattr__", "__delattr__", "__init__",
       "__or__", "__ror__"]),
     (.method, ["mro", "__subclasses__"]),
     (.classMethod, ["__prepare__"]),
     (.method, ["__instancecheck__", "__subclasscheck__", "__dir__", "__sizeof__"]),
     (.field, ["__basicsize__", "__itemsize__", "__flags__", "__weakrefoffset__", "__base__",
       "__dictoffset__", "__mro__"]),
     (.computed, ["__name__", "__qualname__", "__bases__", "__module__", "__abstractmethods__",
       "__dict__", "__doc__", "__text_signature__", "__annotations__"])]
  | int =>
    [(.free, ["__new__"]),
     (.slot, ["__repr__", "__hash__", "__getattribute__", "__lt__", "__le__", "__eq__", "__ne__",
       "__gt__", "__ge__", "__add__", "__radd__", "__sub__", "__rsub__", "__mul__", "__rmul__",
       "__mod__", "__rmod__", "__divmod__", "__rdivmod__", "__pow__", "__rpow__", "__neg__",
       "__pos__", "__abs__", "__bool__", "__invert__", "__lshift__", "__rlshift__", "__rshift__",
       "__rrshift__", "__and__", "__rand__", "__xor__", "__rxor__", "__or__", "__ror__", "__int__",
       "__float__", "__floordiv__", "__rfloordiv__", "__truediv__", "__rtruediv__", "__index__"]),
     (.method, ["conjugate", "bit_length", "bit_count", "to_bytes"]),
     (.classMethod, ["from_bytes"]),
     (.method, ["as_integer_ratio", "__trunc__", "__floor__", "__ceil__", "__round__",
       "__getnewargs__", "__format__", "__sizeof__"]),
     (.computed, ["real", "imag", "numerator", "denominator"]),
     (.plain, ["__doc__"])]
  | str =>
    [(.free, ["__new__"]),
     (.slot, ["__repr__", "__hash__", "__str__", "__getattribute__", "__lt__", "__le__", "__eq__",
       "__ne__", "__gt__", "__ge__", "__iter__", "__mod__", "__rmod__", "__len__", "__getitem__",
       "__add__", "__mul__", "__rmul__", "__contains__"]),
     (.method, ["encode", "replace", "split", "rsplit", "join", "capitalize", "casefold", "title",
       "center", "count", "expandtabs", "find", "partition", "index", "ljust", "lower", "lstrip",
       "rfind", "rindex", "rjust", "rstrip", "rpartition", "splitlines", "strip", "swapcase",
       "translate", "upper", "startswith", "endswith", "removeprefix", "removesuffix", "isascii",
       "islower", "isupper", "istitle", "isspace", "isdecimal", "isdigit", "isnumeric", "isalpha",
       "isalnum", "isidentifier", "isprintable", "zfill", "format", "format_map", "__format__"]),
     (.free, ["maketrans"]),
     (.method, ["__sizeof__", "__getnewargs__"]),
     (.plain, ["__doc__"])]
  | float =>
    [(.free, ["__new__"]),
     (.slot, ["__repr__", "__hash__", "__getattribute__", "__lt__", "__le__", "__eq__", "__ne__",
       "__gt__", "__ge__", "__add__", "__radd__", "__sub__", "__rsub__", "__mul__", "__rmul__",
       "__mod__", "__rmod__", "__divmod__", "__rdivmod__", "__pow__", "__rpow__", "__neg__",
       "__pos__", "__abs__", "__bool__", "__int__", "__float__", "__floordiv__", "__rfloordiv__",
       "__truediv__", "__rtruediv__"]),
     (.method, ["conjugate", "__trunc__", "__floor__", "__ceil__", "__round__",
       "as_integer_ratio"]),
     (.classMethod, ["fromhex"]),
     (.method, ["hex", "is_integer", "__getnewargs__"]),
     (.classMethod, ["__getformat__"]),
     (.method, ["__format__"]),
     (.computed, ["real", "imag"]),
     (.plain, ["__doc__"])]
  | complex =>
    [(.free, ["__new__"]),
     (.slot, ["__repr__", "__hash__", "__getattribute__", "__lt__", "__le__", "__eq__", "__ne__",
       "__gt__", "__ge__", "__add__", "__radd__", "__sub__", "__rsub__", "__mul__", "__rmul__",
       "__pow__", "__rpow__", "__neg__", "__pos__", "__abs__", "__bool__", "__truediv__",
       "__rtruediv__"]),
     (.method, ["conjugate", "__complex__", "__getnewargs__", "__format__"]),
     (.field, ["real", "imag"]),
     (.plain, ["__doc__"])]
  | list =>
    [(.free, ["__new__"]),
     (.slot, ["__repr__"]),
     (.plain, ["__hash__"]),
     (.slot, ["__getattribute__", "__lt__", "__le__", "__eq__", "__ne__", "__gt__", "__ge__",
       "__iter__", "__init__", "__len__"]),
     (.method, ["__getitem__"]),
     (.slot, ["__setitem__", "__delitem__", "__add__", "__mul__", "__rmul__", "__contains__",
       "__iadd__", "__imul__"]),
     (.method, ["__reversed__", "__sizeof__", "clear", "copy", "append", "insert", "extend", "pop",
       "remove", "index", "count", "reverse", "sort"]),
     (.classMethod, ["__class_getitem__"]),
     (.plain, ["__doc__"])]
  | dict =>
    [(.free, ["__new__"]),
     (.slot, ["__repr__"]),
     (.plain, ["__hash__"]),
     (.slot, ["__getattribute__", "__lt__", "__le__", "__eq__", "__ne__", "__gt__", "__ge__",
       "__iter__", "__init__", "__or__", "__ror__", "__ior__", "__len__"]),
     (.method, ["__getitem__"]),
     (.slot, ["__setitem__", "__delitem__"]),
     (.method, ["__contains__", "__sizeof__", "get", "setdefault", "pop", "popitem", "keys",
       "items", "values", "update"]),
     (.classMethod, ["fromkeys"]),
     (.method, ["clear", "copy", "__reversed__"]),
     (.classMethod, ["__class_getitem__"]),
     (.plain, ["__doc__"])]
  | tuple =>
    [(.free, ["__new__"]),
     (.slot, ["__repr__", "__hash__", "__getattribute__", "__lt__", "__le__", "__eq__", "__ne__",
       "__gt__", "__ge__", "__iter__", "__len__", "__getitem__", "__add__", "__mul__", "__rmul__",
       "__contains__"]),
     (.method, ["__getnewargs__", "index", "count"]),
     (.classMethod, ["__class_getitem__"]),
     (.plain, ["__doc__"])]
  | bytes =>
    [(.free, ["__new__"]),
     (.slot, ["__repr__", "__hash__", "__str__", "__getattribute__", "__lt__", "__le__", "__eq__",
       "__ne__", "__gt__", "__ge__", "__iter__", "__mod__", "__rmod__", "__len__", "__getitem__",
       "__add__", "__mul__", "__rmul__", "__contains__"]),
     (.method, ["__getnewargs__", "__bytes__", "capitalize", "center", "count", "decode",
       "endswith", "expandtabs", "find"]),
     (.classMethod, ["fromhex"]),
     (.method, ["hex", "index", "isalnum", "isalpha", "isascii", "isdigit", "islower", "isspace",
       "istitle", "isupper", "join", "ljust", "lower", "lstrip"]),
     (.free, ["maketrans"]),
     (.method, ["partition", "replace", "removeprefix", "removesuffix", "rfind", "rindex", "rjust",
       "rpartition", "rsplit", "rstrip", "split", "splitlines", "startswith", "strip", "swapcase",
       "title", "translate", "upper", "zfill"]),
     (.plain, ["__doc__"])]
  | none =>
    [(.free, ["__new__"]),
     (.slot, ["__repr__", "__bool__"]),
     (.plain, ["__doc__"])]
  | bool =>
    [(.free, ["__new__"]),
     (.slot, ["__repr__", "__and__", "__rand__", "__xor__", "__rxor__", "__or__", "__ror__"]),
     (.plain, ["__doc__"])]
  | symbol =>
    [(.plain, ["__module__", "__doc__", "__slots__"]),
     (.function, ["__repr__"])]
  | unknownOperand =>
    [(.free, ["__new__"]),
     (.slot, ["__repr__", "__bool__"]),
     (.method, ["__reduce__"]),
     (.plain, ["__doc__"])]
  | ellipsis =>
    [(.free, ["__new__"]),
     (.slot, ["__repr__", "__getattribute__"]),
     (.method, ["__reduce__"]),
     (.plain, ["__doc__"])]
  | set =>
    [(.free, ["__new__"]),
     (.slot, ["__repr__"]),
     (.plain, ["__hash__"]),
     (.slot, ["__getattribute__", "__lt__", "__le__", "__eq__", "__ne__", "__gt__", "__ge__",
       "__iter__", "__init__", "__sub__", "__rsub__", "__and__", "__rand__", "__xor__", "__rxor__",
       "__or__", "__ror__", "__isub__", "__iand__", "__ixor__", "__ior__", "__len__"]),
     (.method, ["__contains__", "add", "clear", "copy", "discard", "difference",
       "difference_update", "intersection", "intersection_update", "isdisjoint", "issubset",
       "issuperset", "pop", "__reduce__", "remove", "__sizeof__", "symmetric_difference",
       "symmetric_difference_update", "union", "update"]),
     (.classMethod, ["__class_getitem__"]),
     (.plain, ["__doc__"])]
  | function =>
    [(.free, ["__new__"]),
     (.slot, ["__repr__", "__call__", "__get__"]),
     (.field, ["__closure__", "__doc__", "__globals__", "__module__", "__builtins__"]),
     (.computed, ["__code__", "__defaults__", "__kwdefaults__", "__annotations__", "__dict__",
       "__name__", "__qualname__"])]
  | code =>
    [(.free, ["__new__"]),
     (.slot, ["__repr__", "__hash__", "__getattribute__", "__lt__", "__le__", "__eq__", "__ne__",
       "__gt__", "__ge__"]),
     (.method, ["__sizeof__", "co_lines", "co_positions", "replace", "_varname_from_oparg"]),
     (.field, ["co_argcount", "co_posonlyargcount", "co_kwonlyargcount", "co_stacksize",
       "co_flags", "co_nlocals", "co_consts", "co_names", "co_filename", "co_name", "co_qualname",
       "co_firstlineno", "co_linetable", "co_exceptiontable"]),
     (.computed, ["co_lnotab", "_co_code_adaptive", "co_varnames", "co_cellvars", "co_freevars",
       "co_code"]),
     (.plain, ["__doc__"])]
  | method =>
    [(.free, ["__new__"]),
     (.slot, ["__repr__", "__hash__", "__call__", "__getattribute__", "__setattr__", "__delattr__",
       "__lt__", "__le__", "__eq__", "__ne__", "__gt__", "__ge__"]),
     (.method, ["__reduce__"]),
     (.field, ["__func__", "__self__"]),
     (.computed, ["__doc__"])]
  | builtinMethod =>
    [(.slot, ["__repr__", "__hash__", "__call__", "__getattribute__", "__lt__", "__le__", "__eq__",
       "__ne__", "__gt__", "__ge__"]),
     (.method, ["__reduce__"]),
     (.field, ["__module__"]),
     (.computed, ["__doc__", "__name__", "__qualname__", "__self__", "__text_signature__"])]
  | slotMethod =>
    [(.slot, ["__repr__", "__hash__", "__call__", "__getattribute__", "__lt__", "__le__", "__eq__",
       "__ne__", "__gt__", "__ge__"]),
     (.method, ["__reduce__"]),
     (.field, ["__self__"]),
     (.computed, ["__objclass__", "__name__", "__qualname__", "__doc__", "__text_signature__"])]
  | methodAttribute | slotAttribute =>
    [(.slot, ["__repr__", "__call__", "__getattribute__", "__get__"]),
     (.method, ["__reduce__"]),
     (.field, ["__objclass__", "__name__"]),
     (.computed, ["__doc__", "__qualname__", "__text_signature__"])]
  | computedAttribute =>
    [(.slot, ["__repr__", "__getattribute__", "__get__", "__set__", "__delete__"]),
     (.field, ["__objclass__", "__name__"]),
     (.computed, ["__doc__", "__qualname__"])]
  | fieldAttribute =>
    [(.slot, ["__repr__", "__getattribute__", "__get__", "__set__", "__delete__"]),
     (.method, ["__reduce__"]),
     (.field, ["__objclass__", "__name__"]),
     (.computed, ["__doc__", "__qualname__"])]
  | classAttribute =>
    [(.slot, ["__repr__", "__call__", "__getattribute__", "__get__"]),
     (.field, ["__objclass__", "__name__"]),
     (.computed, ["__doc__", "__qualname__", "__text_signature__"])]
  | classMethod =>
    [(.free, ["__new__"]),
     (.slot, ["__repr__", "__get__", "__init__"]),
     (.field, ["__func__", "__wrapped__"]),
     (.computed, ["__isabstractmethod__", "__dict__"]),
     (.plain, ["__doc__"])]
  | staticMethod =>
    [(.free, ["__new__"]),
     (.slot, ["__repr__", "__call__", "__get__", "__init__"]),
     (.field, ["__func__", "__wrapped__"]),
     (.computed, ["__isabstractmethod__", "__dict__"]),
     (.plain, ["__doc__"])]
  | property =>
    [(.free, ["__new__"]),
     (.slot, ["__getattribute__", "__get__", "__set__", "__delete__", "__init__"]),
     (.method, ["getter", "setter", "deleter", "__set_name__"]),
     (.field, ["fget", "fset", "fdel", "__doc__"]),
     (.computed, ["__isabstractmethod__"])]
  | partialCall =>
    [(.free, ["__new__"]),
     (.slot, ["__repr__", "__call__", "__getattribute__", "__setattr__", "__delattr__"]),
     (.method, ["__reduce__", "__setstate__"]),
     (.classMethod, ["__class_getitem__"]),
     (.field, ["func", "args", "keywords", "__vectorcalloffset__"]),
     (.computed, ["__dict__"]),
     (.plain, ["__doc__", "__module__"])]
  | cachedProperty =>
    [(.plain, ["__module__"]),
     (.function, ["__init__", "__set_name__", "__get__"]),
     (.classFunction, ["__class_getitem__"]),
     (.computed, ["__dict__", "__weakref__"]),
     (.plain, ["__doc__"])]
  | partialMethod =>
    [(.plain, ["__module__", "__doc__"]),
     (.function, ["__init__", "__repr__", "_make_unbound_method", "__get__"]),
     (.accessor, ["__isabstractmethod__"]),
     (.classFunction, ["__class_getitem__"]),
     (.computed, ["__dict__", "__weakref__"])]
  | stubMethod =>
    [(.plain, ["__module__", "__doc__", "__slots__"]),
     (.function, ["__init__", "__repr__", "__set_name__", "__get__", "invoke", "_make_function"]),
     (.field, ["_resolver", "_signature", "definition", "function", "owner"])]
  | stubClassMethod =>
    [(.plain, ["__module__", "__doc__", "__slots__"]),
     (.function, ["__get__"])]
  | generator =>
    [(.plain, ["__module__", "__doc__", "__slots__"]),
     (.function, ["__init__"]),
     (.classFunction, ["define"]),
     (.accessor, ["config", "methods", "class_methods", "is_built"]),
     (.function, ["public_method", "private_method", "protected_method", "public_class_method",
       "private_class_method", "build", "_declare"]),
     (.field, ["_built", "_class_methods", "_config", "_methods", "_source"])]
  | builder =>
    [(.plain, ["__module__", "__doc__", "__slots__"]),
     (.function, ["__init__", "__repr__"]),
     (.accessor, ["name", "visibility", "parameters", "return_value", "generate_random"]),
     (.function, ["required", "optional", "keyword_required", "keyword", "returns", "generate",
       "freeze", "_append"]),
     (.field, ["_generate_random", "_name", "_parameters", "_return_value", "_visibility"])]
  | definition =>
    [(.plain, ["__module__", "__annotations__", "__doc__"]),
     (.accessor, ["wants_random", "signature", "full_signature"]),
     (.function, ["render_signature"]),
     (.plain, ["__dataclass_params__", "__dataclass_fields__"]),
     (.function, ["__init__", "__repr__", "__eq__", "__setattr__", "__delattr__", "__hash__"]),
     (.plain, ["__match_args__", "__slots__"]),
     (.field, ["generate_random", "name", "parameters", "return_value", "visibility"]),
     (.function, ["__getstate__", "__setstate__"])]
  | parameter =>
    [(.plain, ["__module__", "__annotations__", "__doc__"]),
     (.function, ["__post_init__", "render", "to_inspect"]),
     (.plain, ["__dataclass_params__", "__dataclass_fields__"]),
     (.function, ["__init__", "__repr__", "__eq__", "__setattr__", "__delattr__", "__hash__"]),
     (.plain, ["__match_args__", "__slots__"]),
     (.field, ["default", "kind", "name"]),
     (.function, ["__getstate__", "__setstate__"])]
  | settings =>
    [(.plain, ["__module__", "__annotations__", "__doc__"]),
     (.function, ["__post_init__"]),
     (.plain, ["__dataclass_params__", "__dataclass_fields__"]),
     (.function, ["__init__", "__repr__", "__eq__", "__setattr__", "__delattr__", "__hash__"]),
     (.plain, ["__match_args__", "__slots__"]),
     (.field, ["class_name", "integer_max", "integer_min", "string_length"]),
     (.function, ["__getstate__", "__setstate__"])]
  | choice =>
    [(.plain, ["__module__", "__doc__"]),
     (.function, ["__new__", "__init__", "_generate_next_value_"]),
     (.classFunction, ["_missing_"]),
     (.function, ["__repr__", "__str__", "__dir__", "__format__", "__hash__", "__reduce_ex__",
       "__deepcopy__", "__copy__"]),
     (.member, ["name", "value", "_new_member_", "_use_args_", "_member_names_", "_member_map_",
       "_value2member_map_", "_unhashable_values_", "_member_type_", "_value_repr_"]),
     (.computed, ["__dict__", "__weakref__"])]
  | choiceType =>
    [(.plain, ["__module__", "__doc__"]),
     (.classFunction, ["__prepare__"]),
     (.function, ["__new__", "__bool__", "__call__", "__contains__", "__delattr__", "__dir__",
       "__getattr__", "__getitem__", "__iter__", "__len__"]),
     (.accessor, ["__members__"]),
     (.function, ["__repr__", "__reversed__", "__setattr__", "_create_", "_convert_"]),
     (.classFunction, ["_check_for_existing_members_", "_get_mixins_", "_find_data_repr_",
       "_find_data_type_", "_find_new_"])]
  | choiceProperty =>
    [(.plain, ["__module__", "__doc__"]),
     (.function, ["__get__", "__set__", "__delete__", "__set_name__"])]
  | parameterKind =>
    [(.member, ["_generate_next_value_"]),
     (.plain, ["__module__", "__doc__"]),
     (.accessor, ["is_keyword", "has_default"]),
     (.member, ["_new_member_", "_use_args_", "_member_names_", "_member_map_",
       "_value2member_map_", "_unhashable_values_", "_member_type_", "_value_repr_", "REQUIRED",
       "OPTIONAL", "KEYWORD_REQUIRED", "KEYWORD", "__new__"])]
  | visibility =>
    [(.member, ["_generate_next_value_"]),
     (.plain, ["__module__", "__doc__"]),
     (.accessor, ["is_class_level", "is_public", "receiver"]),
     (.member, ["_new_member_", "_use_args_", "_member_names_", "_member_map_",
       "_value2member_map_", "_unhashable_values_", "_member_type_", "_value_repr_", "PUBLIC",
       "PRIVATE", "PROTECTED", "PUBLIC_CLASS", "PRIVATE_CLASS", "__new__"])]
  | signature =>
    [(.plain, ["__module__", "__doc__", "__slots__", "_parameter_cls", "_bound_arguments_cls",
       "empty"]),
     (.function, ["__init__"]),
     (.classFunction, ["from_callable"]),
     (.accessor, ["parameters", "return_annotation"]),
     (.function, ["replace", "_hash_basis", "__hash__", "__eq__", "_bind", "bind", "bind_partial",
       "__reduce__", "__setstate__", "__repr__", "__str__"]),
     (.field, ["_parameters", "_return_annotation"])]
  | signatureParameter =>
    [(.plain, ["__module__", "__doc__", "__slots__"]),
     (.member, ["POSITIONAL_ONLY", "POSITIONAL_OR_KEYWORD", "VAR_POSITIONAL", "KEYWORD_ONLY",
       "VAR_KEYWORD"]),
     (.plain, ["empty"]),
     (.function, ["__init__", "__reduce__", "__setstate__"]),
     (.accessor, ["name", "default", "annotation", "kind"]),
     (.function, ["replace", "__str__", "__repr__", "__hash__", "__eq__"]),
     (.field, ["_annotation", "_default", "_kind", "_name"])]
  | boundArguments =>
    [(.plain, ["__module__", "__doc__", "__slots__"]),
     (.function, ["__init__"]),
     (.accessor, ["signature", "args", "kwargs"]),
     (.function, ["apply_defaults", "__eq__", "__setstate__", "__getstate__", "__repr__"]),
     (.field, ["_signature", "arguments"]),
     (.computed, ["__weakref__"]),
     (.plain, ["__hash__"])]
  | parameterPassing =>
    [(.member, ["_generate_next_value_"]),
     (.plain, ["__module__"]),
     (.member, ["__new__"]),
     (.function, ["__str__", "_new_member_"]),
     (.member, ["_use_args_", "_member_names_", "_member_map_", "_value2member_map_",
       "_unhashable_values_", "_member_type_", "_value_repr_"]),
     (.plain, ["__doc__"]),
     (.member, ["POSITIONAL_ONLY", "POSITIONAL_OR_KEYWORD", "VAR_POSITIONAL", "KEYWORD_ONLY",
       "VAR_KEYWORD", "__format__", "__new_member__"])]
  | noDefault | leftOut =>
    [(.plain, ["__module__", "__doc__"]),
     (.computed, ["__dict__", "__weakref__"])]
  | randomCore =>
    [(.free, ["__new__"]),
     (.slot, ["__init__"]),
     (.method, ["random", "seed", "getstate", "setstate", "getrandbits"]),
     (.plain, ["__doc__", "__module__"])]
  | randomGenerator =>
    [(.plain, ["__module__", "__doc__", "VERSION"]),
     (.function, ["__init__", "seed", "getstate", "setstate", "__getstate__", "__setstate__",
       "__reduce__"]),
     (.classFunction, ["__init_subclass__"]),
     (.function, ["_randbelow_with_getrandbits", "_randbelow_without_getrandbits", "_randbelow",
       "randbytes", "randrange", "randint", "choice", "shuffle", "sample", "choices", "uniform",
       "triangular", "normalvariate", "gauss", "lognormvariate", "expovariate", "vonmisesvariate",
       "gammavariate", "betavariate", "paretovariate", "weibullvariate"]),
     (.computed, ["__dict__", "__weakref__"])]
  | seededSource =>
    [(.plain, ["__module__", "__doc__", "__slots__"]),
     (.function, ["__init__", "integer", "alphanumeric"]),
     (.field, ["_rng", "seed"])]
  | fixedSource =>
    [(.plain, ["__module__"]),
     (.function, ["__init__", "integer", "alphanumeric"]),
     (.computed, ["__dict__", "__weakref__"]),
     (.plain, ["__doc__"])]
  | systemSource =>
    [(.plain, ["__module__", "__doc__", "__slots__"]),
     (.function, ["integer", "alphanumeric"])]
  | readOnlyDict =>
    [(.free, ["__new__"]),
     (.slot, ["__repr__", "__str__", "__getattribute__", "__lt__", "__le__", "__eq__", "__ne__",
       "__gt__", "__ge__", "__iter__", "__or__", "__ror__", "__ior__", "__len__", "__getitem__",
       "__contains__"]),
     (.method, ["get", "keys", "values", "items", "copy"]),
     (.classMethod, ["__class_getitem__"]),
     (.method, ["__reversed__"]),
     (.plain, ["__doc__", "__hash__"])]
  | keysView | entriesView =>
    [(.slot, ["__repr__", "__getattribute__", "__lt__", "__le__", "__eq__", "__ne__", "__gt__",
       "__ge__", "__iter__", "__sub__", "__rsub__", "__and__", "__rand__", "__xor__", "__rxor__",
       "__or__", "__ror__", "__len__", "__contains__"]),
     (.method, ["isdisjoint", "__reversed__"]),
     (.computed, ["mapping"]),
     (.plain, ["__doc__", "__hash__"])]
  | valuesView =>
    [(.slot, ["__repr__", "__getattribute__", "__iter__", "__len__"]),
     (.method, ["__reversed__"]),
     (.computed, ["mapping"]),
     (.plain, ["__doc__"])]
  | listIterator | listReverseIterator | tupleIterator | asciiIterator | textIterator |
  bytesIterator =>
    [(.slot, ["__getattribute__", "__iter__", "__next__"]),
     (.method, ["__length_hint__", "__reduce__", "__setstate__"]),
     (.plain, ["__doc__"])]
  | keyIterator | valueIterator | entryIterator | setIterator =>
    [(.slot, ["__getattribute__", "__iter__", "__next__"]),
     (.method, ["__length_hint__", "__reduce__"]),
     (.plain, ["__doc__"])]
  | keyReverseIterator | valueReverseIterator | entryReverseIterator =>
    [(.slot, ["__iter__", "__next__"]),
     (.method, ["__length_hint__", "__reduce__"]),
     (.plain, ["__doc__"])]
  | reversed =>
    [(.free, ["__new__"]),
     (.slot, ["__getattribute__", "__iter__", "__next__"]),
     (.method, ["__length_hint__", "__reduce__", "__setstate__"]),
     (.plain, ["__doc__"])]
  | producer =>
    [(.slot, ["__repr__", "__getattribute__", "__iter__", "__next__", "__del__"]),
     (.method, ["send", "throw", "close", "__sizeof__"]),
     (.field, ["gi_code"]),
     (.computed, ["__name__", "__qualname__", "gi_yieldfrom", "gi_running", "gi_frame",
       "gi_suspended"]),
     (.plain, ["__doc__"])]
  | module =>
    [(.free, ["__new__"]),
     (.slot, ["__repr__", "__getattribute__", "__setattr__", "__delattr__", "__init__"]),
     (.method, ["__dir__"]),
     (.field, ["__dict__"]),
     (.computed, ["__annotations__"]),
     (.plain, ["__doc__"]),
     (.free, ["getattr", "iter", "next"])]
  | orderedDict =>
    [(.slot, ["__repr__", "__lt__", "__le__", "__eq__", "__ne__", "__gt__", "__ge__", "__iter__",
       "__init__", "__or__", "__ror__", "__ior__", "__setitem__", "__delitem__"]),
     (.classMethod, ["fromkeys"]),
     (.method, ["__sizeof__", "__reduce__", "setdefault", "pop", "popitem", "keys", "values",
       "items", "update", "clear", "copy", "__reversed__", "move_to_end"]),
     (.computed, ["__dict__"]),
     (.plain, ["__doc__", "__hash__"])]
  | orderedKeys | orderedValues | orderedEntries =>
    [(.slot, ["__iter__"]),
     (.method, ["__reversed__"]),
     (.plain, ["__doc__"])]
  | orderedIterator =>
    [(.slot, ["__getattribute__", "__iter__", "__next__"]),
     (.method, ["__reduce__"]),
     (.plain, ["__doc__"])]
  | cell =>
    [(.free, ["__new__"]),
     (.slot, ["__repr__", "__getattribute__", "__lt__", "__le__", "__eq__", "__ne__", "__gt__",
       "__ge__"]),
     (.computed, ["cell_contents"]),
     (.plain, ["__doc__", "__hash__"])]
  | appliedType =>
    [(.free, ["__new__"]),
     (.slot, ["__repr__", "__hash__", "__call__", "__getattribute__", "__lt__", "__le__", "__eq__",
       "__ne__", "__gt__", "__ge__", "__iter__", "__or__", "__ror__", "__getitem__"]),
     (.method, ["__mro_entries__", "__instancecheck__", "__subclasscheck__", "__reduce__",
       "__dir__"]),
     (.field, ["__origin__", "__args__", "__unpacked__"]),
     (.computed, ["__parameters__", "__typing_unpacked_tuple_args__"]),
     (.plain, ["__doc__"])]
  | typeUnion =>
    [(.slot, ["__repr__", "__hash__", "__getattribute__", "__lt__", "__le__", "__eq__", "__ne__",
       "__gt__", "__ge__", "__or__", "__ror__", "__getitem__"]),
     (.field, ["__args__"]),
     (.computed, ["__parameters__"]),
     (.plain, ["__doc__"])]
  | appliedIterator =>
    [(.slot, ["__iter__", "__next__"]),
     (.method, ["__reduce__"]),
     (.plain, ["__doc__"]),
     (.slot, ["__getattribute__"])]
  | writtenChoice =>
    [(.member, ["_generate_next_value_"]),
     (.plain, ["__module__", "__doc__"]),
     (.member, ["_new_member_", "_use_args_", "_member_names_", "_member_map_",
       "_value2member_map_", "_unhashable_values_", "_member_type_", "_value_repr_", "__new__"])]
  | numberChoice =>
    [(.member, ["_generate_next_value_"]),
     (.plain, ["__module__", "__doc__"]),
     (.member, ["_new_member_", "_use_args_", "_member_names_", "_member_map_",
       "_value2member_map_", "_unhashable_values_", "_member_type_", "_value_repr_"]),
     (.computed, ["__dict__"]),
     (.member, ["__format__", "__str__", "__repr__", "__new__"])]
  | box =>
    [(.plain, ["__module__"]),
     (.computed, ["__dict__", "__weakref__"]),
     (.plain, ["__doc__"])]
  | echo =>
    [(.plain, ["__module__"]),
     (.function, ["__getattr__"]),
     (.computed, ["__dict__", "__weakref__"]),
     (.plain, ["__doc__"])]

/-- The names that a type holds, in its order. -/
def ownNames (t : BuiltinType) : List String :=
  t.rows.flatMap (·.2)

/-- The names of a type under which something of a kind stands. -/
def namesOf (t : BuiltinType) (k : AttributeKind) : List String :=
  (t.rows.filter fun r => r.1 == k).flatMap (·.2)

/-- The names of the computed values of a type. -/
def computedNames (t : BuiltinType) : List String :=
  t.namesOf .computed

/-- The names of the fields of a type. -/
def fieldNames (t : BuiltinType) : List String :=
  t.namesOf .field

/-- What stands under a name of a type, if it holds the name itself. -/
def attributeKind? (t : BuiltinType) (name : String) : Option AttributeKind :=
  (t.rows.find? fun r => r.2.contains name).map (·.1)

end BuiltinType

end StubClass
