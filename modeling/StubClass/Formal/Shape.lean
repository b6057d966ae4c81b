import StubClass.Builtin.Attributes
import StubClass.Formal

set_option autoImplicit false

/-! # The functions of this library

What the functions of the types of this library take, the object itself first, with what is noted on
values and results. -/

namespace StubClass

/-- What a function takes, and what is noted on its result. -/
structure Shape where
  formals : List Formal
  result : Option Value
deriving Repr, Inhabited

namespace Shape

/-- A parameter with a note. -/
def noted (f : Formal) (note : String) : Formal :=
  { f with note := some note }

/-- The parameter of the object itself. -/
def receiver : Formal :=
  .required "self"

/-- What a function without notes takes. -/
def plain (formals : List Formal) : Shape :=
  ⟨formals, none⟩

/-- What a function without notes takes after the object itself. -/
def onSelf (rest : List Formal) : Shape :=
  plain (receiver :: rest)

/-- What a function without notes takes after the class. -/
def onClass (rest : List Formal) : Shape :=
  plain (.required "cls" :: rest)

/-- What a function takes after the object itself, with a note on its result. -/
def ofRest (rest : List Formal) (result : String) : Shape :=
  ⟨receiver :: rest, some (.str result)⟩

/-- A required parameter with a note. -/
def given (name note : String) : Formal :=
  noted (.required name) note

/-- An optional parameter with a note. -/
def maybe (name note : String) (default : Value) : Formal :=
  noted (.optional name default) note

/-- A parameter by keyword that may be left out. -/
def namedOr (name : String) (default : Value) : Formal :=
  { Formal.named name with default := some default }

/-- A parameter by keyword with a note, which may be left out. -/
def named (name note : String) : Formal :=
  noted (namedOr name .null) note

/-- All further arguments by position and by keyword. -/
def further (positional keywords : String) : List Formal :=
  [⟨.furtherPositional, .ofText positional, none, none⟩,
    ⟨.furtherKeyword, .ofText keywords, none, none⟩]

/-- The object itself, by position only. -/
def onlySelf : Formal :=
  ⟨.positionalOnly, .ofText "self", none, none⟩

/-- What a declaration takes. -/
def declaration : Shape :=
  ofRest [given "name" "str", maybe "configure" "Configure | None" .null] "None"

/-! ## By type -/

/-- What a function of generators takes. -/
def ofGenerator? (name : String) : Option Shape :=
  match name with
  | "public_method" | "private_method" | "protected_method" | "public_class_method"
  | "private_class_method" => some declaration
  | "build" => some (ofRest [] "type")
  | "_declare" =>
    some (ofRest [given "name" "str", given "visibility" "Visibility",
      given "configure" "Configure | None"] "None")
  | "__init__" =>
    some (ofRest [named "config" "GeneratorConfig | None",
      named "random_source" "RandomSource | None"] "None")
  | "define" =>
    some ⟨[.required "cls", given "session" "Session", named "config" "GeneratorConfig | None",
      named "random_source" "RandomSource | None"], some (.str "Self")⟩
  | "config" => some (ofRest [] "GeneratorConfig")
  | "methods" | "class_methods" => some (ofRest [] "tuple[MethodDefinition, ...]")
  | "is_built" => some (ofRest [] "bool")
  | _ => none

/-- What a function of builders takes. -/
def ofBuilder? (name : String) : Option Shape :=
  match name with
  | "__init__" =>
    some (ofRest [given "name" "str", given "visibility" "Visibility | str"] "None")
  | "required" | "keyword_required" => some (ofRest [given "name" "str"] "Self")
  | "optional" | "keyword" =>
    some (ofRest [given "name" "str", maybe "default" "object" .null] "Self")
  | "returns" => some (ofRest [given "value" "object"] "Self")
  | "generate" => some (ofRest [maybe "enabled" "bool" (.bool true)] "Self")
  | "freeze" => some (ofRest [] "MethodDefinition")
  | "_append" => some (ofRest [given "parameter" "Parameter"] "Self")
  | "__repr__" | "name" => some (ofRest [] "str")
  | "visibility" => some (ofRest [] "Visibility")
  | "parameters" => some (ofRest [] "tuple[Parameter, ...]")
  | "return_value" => some (ofRest [] "object")
  | "generate_random" => some (ofRest [] "bool")
  | _ => none

/-- What a function that records have in common takes. -/
def ofRecord? (name : String) : Option Shape :=
  match name with
  | "__eq__" => some (onSelf [.required "other"])
  | "__repr__" | "__hash__" | "__getstate__" => some (onSelf [])
  | "__setattr__" => some (onSelf [.required "name", .required "value"])
  | "__delattr__" => some (onSelf [.required "name"])
  | "__setstate__" => some (onSelf [.required "state"])
  | "__post_init__" => some (ofRest [] "None")
  | _ => none

/-- What a function of definitions, parameters or settings takes. -/
def ofDeclared? (t : BuiltinType) (name : String) : Option Shape :=
  match t, name with
  | .definition, "__init__" =>
    some ⟨[receiver, given "name" "str", given "visibility" "Visibility",
      maybe "parameters" "tuple[Parameter, ...]" (.tuple []), maybe "return_value" "object" .null,
      maybe "generate_random" "bool" (.bool false)], some .null⟩
  | .definition, "render_signature" | .parameter, "render" => some (ofRest [] "str")
  | .definition, "wants_random" => some (ofRest [] "bool")
  | .definition, "signature" | .definition, "full_signature" =>
    some (ofRest [] "inspect.Signature")
  | .parameter, "__init__" =>
    some ⟨[receiver, given "kind" "ParameterKind", given "name" "str",
      maybe "default" "object" .null], some .null⟩
  | .parameter, "to_inspect" => some (ofRest [] "inspect.Parameter")
  | .settings, "__init__" =>
    some ⟨[receiver, maybe "class_name" "str" (.str "GeneratedClass"),
      maybe "integer_min" "int" (.int 1), maybe "integer_max" "int" (.int 1000000),
      maybe "string_length" "int" (.int 10)], some .null⟩
  | _, _ => ofRecord? name

/-- What a function of generated members takes. -/
def ofStub? (name : String) : Option Shape :=
  match name with
  | "__init__" =>
    some (ofRest [given "definition" "MethodDefinition", given "resolver" "ReturnResolver"] "None")
  | "__set_name__" => some (ofRest [given "owner" "type", given "name" "str"] "None")
  | "__get__" =>
    some (ofRest [given "instance" "object", maybe "owner" "type | None" .null] "Any")
  | "invoke" =>
    some (ofRest [given "args" "tuple[object, ...]", given "kwargs" "Mapping[str, object]"]
      "object")
  | "_make_function" => some (ofRest [] "Callable[..., object]")
  | "__repr__" => some (ofRest [] "str")
  | _ => none

/-- What functions of generated members take. -/
def ofMember : Shape :=
  ⟨[⟨.positionalOnly, .ofText "receiver", none, some "object"⟩,
    ⟨.furtherPositional, .ofText "args", none, some "object"⟩,
    ⟨.furtherKeyword, .ofText "kwargs", none, some "object"⟩], some (.str "object")⟩

/-- What a call from inside takes. -/
def ofSending : Shape :=
  ⟨[⟨.positionalOnly, .ofText "target", none, some "object"⟩,
    ⟨.positionalOnly, .ofText "name", none, some "str"⟩,
    ⟨.furtherPositional, .ofText "args", none, some "object"⟩,
    ⟨.furtherKeyword, .ofText "kwargs", none, some "object"⟩], some (.str "object")⟩

/-- What a function of sources takes. -/
def ofSource? (t : BuiltinType) (name : String) : Option Shape :=
  match t, name with
  | .seededSource, "__init__" => some (ofRest [given "seed" "int"] "None")
  | .fixedSource, "__init__" =>
    some (onSelf [.optional "offset" (.int 0), .optional "fill" (.str "a")])
  | .fixedSource, "integer" => some (onSelf [.required "low", .required "high"])
  | .fixedSource, "alphanumeric" => some (onSelf [.required "length"])
  | _, "integer" => some (ofRest [given "low" "int", given "high" "int"] "int")
  | _, "alphanumeric" => some (ofRest [given "length" "int"] "str")
  | _, _ => none

/-- What a function of random number generators takes. -/
def ofRandom? (name : String) : Option Shape :=
  match name with
  | "__init__" => some (onSelf [.optional "x" .null])
  | "seed" => some (onSelf [.optional "a" .null, .optional "version" (.int 2)])
  | "randrange" =>
    some (onSelf [.required "start", .optional "stop" .null, .optional "step" (.int 1)])
  | "randint" | "uniform" => some (onSelf [.required "a", .required "b"])
  | "choice" => some (onSelf [.required "seq"])
  | "choices" =>
    some (onSelf [.required "population", .optional "weights" .null, namedOr "cum_weights" .null,
      namedOr "k" (.int 1)])
  | "shuffle" => some (onSelf [.required "x"])
  | "sample" =>
    some (onSelf [.required "population", .required "k", namedOr "counts" .null])
  | "randbytes" | "_randbelow" | "_randbelow_with_getrandbits" =>
    some (onSelf [.required "n"])
  | "_randbelow_without_getrandbits" =>
    some (onSelf [.required "n", .optional "maxsize" (.int 9007199254740992)])
  | "__init_subclass__" =>
    some (plain [⟨.positionalOnly, .ofText "cls", none, none⟩,
      ⟨.furtherKeyword, .ofText "kwargs", none, none⟩])
  | "triangular" =>
    some (onSelf [.optional "low" (.float 0.0), .optional "high" (.float 1.0),
      .optional "mode" .null])
  | "gauss" | "normalvariate" =>
    some (onSelf [.optional "mu" (.float 0.0), .optional "sigma" (.float 1.0)])
  | "lognormvariate" => some (onSelf [.required "mu", .required "sigma"])
  | "expovariate" => some (onSelf [.required "lambd"])
  | "vonmisesvariate" => some (onSelf [.required "mu", .required "kappa"])
  | "gammavariate" | "betavariate" | "weibullvariate" =>
    some (onSelf [.required "alpha", .required "beta"])
  | "paretovariate" => some (onSelf [.required "alpha"])
  | "setstate" | "__setstate__" => some (onSelf [.required "state"])
  | "getstate" | "__getstate__" | "__reduce__" => some (onSelf [])
  | _ => none

/-- What a function of layers takes. -/
def ofLayer? (t : BuiltinType) (name : String) : Option Shape :=
  match t, name with
  | .cachedProperty, "__init__" => some (onSelf [.required "func"])
  | .cachedProperty, "__get__" => some (onSelf [.required "instance", .optional "owner" .null])
  | .cachedProperty, "__set_name__" => some (onSelf [.required "owner", .required "name"])
  | .partialMethod, "__init__" =>
    some (plain ([onlySelf, ⟨.positionalOnly, .ofText "func", none, none⟩]
      ++ further "args" "keywords"))
  | .partialMethod, "__get__" => some (onSelf [.required "obj", .optional "cls" .null])
  | .partialMethod, _ => some (onSelf [])
  | _, _ => none

/-- What a function of enumerations or of their members takes. -/
def ofChoice? (t : BuiltinType) (name : String) : Option Shape :=
  match t, name with
  | .choice, "__new__" | .choice, "_missing_" => some (onClass [.required "value"])
  | .choice, "__init__" => some (plain (receiver :: further "args" "kwds"))
  | .choice, "__format__" => some (onSelf [.required "format_spec"])
  | .choice, "__reduce_ex__" => some (onSelf [.required "proto"])
  | .choice, "_generate_next_value_" =>
    some (plain (["name", "start", "count", "last_values"].map Formal.required))
  | .choice, "__deepcopy__" => some (onSelf [.required "memo"])
  | .parameterPassing, "_new_member_" => some (onClass [.required "description"])
  | .choice, _ | .parameterPassing, _ => some (onSelf [])
  | .parameterKind, _ => some ⟨[receiver], some (.type .bool)⟩
  | .visibility, "receiver" => some ⟨[receiver], some (.type .str)⟩
  | .visibility, _ => some ⟨[receiver], some (.type .bool)⟩
  | .choiceType, "__call__" =>
    some (onClass [.required "value", .optional "names" .null, namedOr "module" .null,
      namedOr "qualname" .null, namedOr "type" .null, namedOr "start" (.int 1),
      namedOr "boundary" .null])
  | .choiceType, "_create_" =>
    some (onClass [.required "class_name", .required "names", namedOr "module" .null,
      namedOr "qualname" .null, namedOr "type" .null, namedOr "start" (.int 1),
      namedOr "boundary" .null])
  | .choiceType, "__new__" =>
    some (plain ([.required "metacls", .required "cls", .required "bases", .required "classdict",
      namedOr "boundary" .null, namedOr "_simple" (.bool false)]
      ++ [⟨.furtherKeyword, .ofText "kwds", none, none⟩]))
  | .choiceType, "__contains__" => some (onClass [.required "member"])
  | .choiceType, "__delattr__" => some (onClass [.required "attr"])
  | .choiceType, "__getattr__" | .choiceType, "__getitem__" => some (onClass [.required "name"])
  | .choiceType, "__setattr__" => some (onClass [.required "name", .required "value"])
  | .choiceType, _ => some (onClass [])
  | .choiceProperty, "__get__" =>
    some (onSelf [.required "instance", .optional "ownerclass" .null])
  | .choiceProperty, "__set__" => some (onSelf [.required "instance", .required "value"])
  | .choiceProperty, "__delete__" => some (onSelf [.required "instance"])
  | .choiceProperty, _ => some (onSelf [.required "ownerclass", .required "name"])
  | _, _ => none

/-- What a function of signatures or of their parameters takes. -/
def ofSignature? (t : BuiltinType) (name : String) : Option Shape :=
  let empty := Value.type .noDefault
  let leftOut := Value.type .leftOut
  match t, name with
  | .signatureParameter, "__init__" =>
    some (onSelf [.required "name", .required "kind", namedOr "default" empty,
      namedOr "annotation" empty])
  | .signatureParameter, "replace" =>
    some (onSelf (["name", "kind", "annotation", "default"].map fun n => namedOr n leftOut))
  | .signature, "__init__" =>
    some (onSelf [.optional "parameters" .null, namedOr "return_annotation" empty,
      namedOr "__validate_parameters__" (.bool true)])
  | .signature, "bind" | .signature, "bind_partial" =>
    some (plain (onlySelf :: further "args" "kwargs"))
  | .signature, "_bind" =>
    some (onSelf [.required "args", .required "kwargs", namedOr "partial" (.bool false)])
  | .signature, "replace" =>
    some (onSelf (["parameters", "return_annotation"].map fun n => namedOr n leftOut))
  | .signature, "from_callable" =>
    some (onClass [.required "obj", namedOr "follow_wrapped" (.bool true), namedOr "globals" .null,
      namedOr "locals" .null, namedOr "eval_str" (.bool false)])
  | .boundArguments, "__init__" => some (onSelf [.required "signature", .required "arguments"])
  | _, "__eq__" => some (onSelf [.required "other"])
  | _, "__setstate__" => some (onSelf [.required "state"])
  | _, _ => some (onSelf [])

end Shape

open Shape in
/-- What a function of a type of this library takes. -/
def BuiltinType.shape? (t : BuiltinType) (name : String) : Option Shape :=
  match t with
  | generator => ofGenerator? name
  | builder => ofBuilder? name
  | definition | parameter | settings => ofDeclared? t name
  | stubMethod | stubClassMethod => ofStub? name
  | seededSource | systemSource | fixedSource => ofSource? t name
  | randomGenerator => ofRandom? name
  | cachedProperty | partialMethod => ofLayer? t name
  | choice | choiceType | choiceProperty | parameterKind | visibility | parameterPassing =>
    ofChoice? t name
  | signature | signatureParameter | boundArguments => ofSignature? t name
  | symbol => if name == "__repr__" then some (ofRest [] "str") else Option.none
  | echo => if name == "__getattr__" then some (onSelf [.required "name"]) else Option.none
  | _ => Option.none

end StubClass
