import StubClass.Manual.Note

set_option autoImplicit false

/-! # Notes on attributes: the types of this library -/

namespace StubClass.Manual

/-- What the functions of generators say of themselves. -/
def generatorNotes : List Note :=
  [
    ⟨"__init__", none,
     ("Initialize empty generator.\n\n        Args:\n            config: Generator settings "
      ++ "(defaults if None)\n            random_source: Random source (SecretsRandomSource "
      ++ "if None)\n        ")⟩,
    ⟨"_declare", none,
     ("Create config, run callback, freeze and append.\n\n        Raises:\n            "
      ++ "InvalidIdentifierError: If name is not an identifier\n            "
      ++ "DuplicateMethodError: If name is already declared\n        ")⟩,
    ⟨"build", none,
     ("Materialize new class from current declarations.\n\n        Returns:\n            "
      ++ "Fresh class; repeated calls never return the same class\n        ")⟩,
    ⟨"class_methods", none, "Class-level declarations."⟩,
    ⟨"config", none, "Generator settings."⟩,
    ⟨"define", none,
     ("Open session and run declarations synchronously.\n\n        Args:\n            "
      ++ "session: Called once with the new generator\n            config: Generator "
      ++ "settings\n            random_source: Random source\n\n        Returns:\n          "
      ++ "  Generator holding the session's declarations\n        ")⟩,
    ⟨"is_built", none, "At least one class was built."⟩,
    ⟨"methods", none, "Instance-level declarations."⟩,
    ⟨"private_class_method", none, "Declare private class method."⟩,
    ⟨"private_method", none, "Declare private instance method (generated class only)."⟩,
    ⟨"protected_method", none,
     "Declare protected instance method (generated class and subclasses)."⟩,
    ⟨"public_class_method", none, "Declare public class method."⟩,
    ⟨"public_method", none, "Declare public instance method."⟩]

/-- What the functions of builders say of themselves. -/
def builderNotes : List Note :=
  [
    ⟨"__init__", none,
     ("Initialize empty declaration.\n\n        Args:\n            name: Method name, a "
      ++ "non-keyword, non-dunder identifier\n            visibility: Visibility or its "
      ++ "string value\n\n        Raises:\n            InvalidIdentifierError: If name is "
      ++ "not an identifier\n            InvalidVisibilityError: If visibility is not "
      ++ "recognised\n        ")⟩,
    ⟨"_append", none,
     ("Validate ordering against declared parameters, then append.\n\n        Raises:\n     "
      ++ "       DuplicateParameterError: Name reused or equal to the receiver name\n       "
      ++ "     ParameterOrderError: Parameter breaks signature order\n        ")⟩,
    ⟨"freeze", none, "Snapshot current state as an immutable MethodDefinition."⟩,
    ⟨"generate", none, "Toggle random generation for marker return values."⟩,
    ⟨"generate_random", none, "Random generation flag."⟩,
    ⟨"keyword", none, "Append optional keyword-only parameter."⟩,
    ⟨"keyword_required", none, "Append required keyword-only parameter."⟩,
    ⟨"name", none, "Method name."⟩,
    ⟨"optional", none, "Append optional positional parameter."⟩,
    ⟨"parameters", none, "Parameters declared so far, in order."⟩,
    ⟨"required", none, "Append required positional parameter."⟩,
    ⟨"return_value", none, "Configured return value or marker."⟩,
    ⟨"returns", none,
     ("Set literal return value, or a marker type (int, str, Symbol).\n\n        A marker "
      ++ "only yields random values once generate() is enabled.\n        ")⟩,
    ⟨"visibility", none, "Declared visibility."⟩]

/-- What the functions of definitions say of themselves. -/
def definitionNotes : List Note :=
  [
    ⟨"full_signature", none, "Signature of the underlying function (receiver included)."⟩,
    ⟨"render_signature", none,
     "Signature as rendered parameter fragments, e.g. \"(x, y = 10, fmt:)\"."⟩,
    ⟨"signature", none, "Signature of the bound member (receiver excluded)."⟩,
    ⟨"wants_random", none, "Return value is produced freshly on every call."⟩]

/-- What the functions of parameters say of themselves. -/
def parameterNotes : List Note :=
  [
    ⟨"__post_init__", none, "Validate invariants. FAIL-FIRST."⟩,
    ⟨"render", none,
     ("Signature fragment for this parameter.\n\n        Defaults are rendered with repr(), "
      ++ "a stable Python literal.\n        ")⟩,
    ⟨"to_inspect", none, "Equivalent inspect.Parameter for signature construction."⟩]

/-- What the functions of settings say of themselves. -/
def settingsNotes : List Note :=
  [
    ⟨"__post_init__", none, "Validate invariants. FAIL-FIRST."⟩]

/-- What the functions of kinds of parameters say of themselves. -/
def parameterKindNotes : List Note :=
  [
    ⟨"has_default", none, "Default value is applied for this kind."⟩,
    ⟨"is_keyword", none, "Keyword-only in the generated signature."⟩]

/-- What the functions of visibilities say of themselves. -/
def visibilityNotes : List Note :=
  [
    ⟨"is_class_level", none, "Bound to the class rather than to instances."⟩,
    ⟨"is_public", none, "Callable from anywhere."⟩,
    ⟨"receiver", none, "Name of the implicit first parameter."⟩]

/-- What the functions of generated members say of themselves. -/
def stubMethodNotes : List Note :=
  [
    ⟨"__init__", none,
     ("Initialize descriptor.\n\n        Args:\n            definition: Frozen declaration\n"
      ++ "            resolver: Produces the return value on each call\n        ")⟩,
    ⟨"invoke", none,
     ("Validate arguments against declared signature and resolve return value.\n\n        "
      ++ "Argument values are never consulted.\n\n        Raises:\n            ArityError: "
      ++ "If arguments do not bind to the signature\n        ")⟩]

/-- What the functions of seeded sources say of themselves. -/
def seededSourceNotes : List Note :=
  [
    ⟨"__init__", none,
     ("Initialize with seed.\n\n        Raises:\n            TypeError: If seed is not an "
      ++ "int\n        ")⟩,
    ⟨"alphanumeric", none, "Random ASCII letters and digits."⟩,
    ⟨"integer", none, "Uniform integer in [low, high]."⟩]

/-- What the functions of system sources say of themselves. -/
def systemSourceNotes : List Note :=
  [
    ⟨"alphanumeric", none, "Random ASCII letters and digits."⟩,
    ⟨"integer", none, "Uniform integer in [low, high]."⟩]

end StubClass.Manual
