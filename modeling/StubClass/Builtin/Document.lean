import StubClass.Builtin

set_option autoImplicit false

/-! # Documentation of built-in types -/

namespace StubClass

/-- The documentation of a type, if it has any. -/
def BuiltinType.doc? : BuiltinType → Option String
  | object =>
    some ("The base class of the class hierarchy.\n\n"
      ++ "When called, it accepts no arguments and returns a new featureless\n"
      ++ "instance that has no instance attributes and cannot be given any.\n")
  | type =>
    some "type(object) -> the object's type\ntype(name, bases, dict, **kwds) -> a new type"
  | int =>
    some ("int([x]) -> integer\nint(x, base=10) -> integer\n\n"
      ++ "Convert a number or string to an integer, or return 0 if no arguments\n"
      ++ "are given.  If x is a number, return x.__int__().  For floating point\n"
      ++ "numbers, this truncates towards zero.\n\n"
      ++ "If x is not a number or if base is given, then x must be a string,\n"
      ++ "bytes, or bytearray instance representing an integer literal in the\n"
      ++ "given base.  The literal can be preceded by '+' or '-' and be surrounded\n"
      ++ "by whitespace.  The base defaults to 10.  Valid bases are 0 and 2-36.\n"
      ++ "Base 0 means to interpret the base from the string as an integer literal.\n"
      ++ ">>> int('0b100', base=0)\n4")
  | bool =>
    some ("bool(x) -> bool\n\nReturns True when the argument x is true, False otherwise.\n"
      ++ "The builtins True and False are the only two instances of the class bool.\n"
      ++ "The class bool is a subclass of the class int, and cannot be subclassed.")
  | str =>
    some ("str(object='') -> str\nstr(bytes_or_buffer[, encoding[, errors]]) -> str\n\n"
      ++ "Create a new string object from the given object. If encoding or\n"
      ++ "errors is specified, then the object must expose a data buffer\n"
      ++ "that will be decoded using the given encoding and error handler.\n"
      ++ "Otherwise, returns the result of object.__str__() (if defined)\nor repr(object).\n"
      ++ "encoding defaults to sys.getdefaultencoding().\nerrors defaults to 'strict'.")
  | float =>
    some "Convert a string or number to a floating point number, if possible."
  | complex =>
    some ("Create a complex number from a real part and an optional imaginary part.\n\n"
      ++ "This is equivalent to (real + imag*1j) where imag defaults to 0.")
  | list =>
    some ("Built-in mutable sequence.\n\n"
      ++ "If no argument is given, the constructor creates a new empty list.\n"
      ++ "The argument must be an iterable if specified.")
  | dict =>
    some ("dict() -> new empty dictionary\n"
      ++ "dict(mapping) -> new dictionary initialized from a mapping object's\n"
      ++ "    (key, value) pairs\ndict(iterable) -> new dictionary initialized as if via:\n"
      ++ "    d = \x7b\x7d\n    for k, v in iterable:\n        d[k] = v\n"
      ++ "dict(**kwargs) -> new dictionary initialized with the name=value pairs\n"
      ++ "    in the keyword argument list.  For example:  dict(one=1, two=2)")
  | tuple =>
    some ("Built-in immutable sequence.\n\n"
      ++ "If no argument is given, the constructor returns an empty tuple.\n"
      ++ "If iterable is specified the tuple is initialized from iterable's items.\n\n"
      ++ "If the argument is a tuple, the return value is the same object.")
  | bytes =>
    some ("bytes(iterable_of_ints) -> bytes\nbytes(string, encoding[, errors]) -> bytes\n"
      ++ "bytes(bytes_or_buffer) -> immutable copy of bytes_or_buffer\n"
      ++ "bytes(int) -> bytes object of size given by the parameter initialized with null "
      ++ "bytes\nbytes() -> empty bytes object\n\nConstruct an immutable array of bytes from:\n"
      ++ "  - an iterable yielding integers in range(256)\n"
      ++ "  - a text string encoded using the specified encoding\n"
      ++ "  - any object implementing the buffer API.\n  - an integer")
  | symbol =>
    some ("Name-like value, the marker for random symbol generation.\n\n"
      ++ "    Compares equal to the plain str with the same text.\n    ")
  | stubMethod =>
    some ("Instance-level generated member (public, private or protected).\n\n"
      ++ "    Attributes:\n        definition: Frozen declaration\n"
      ++ "        function: Underlying function; first argument is the receiver\n"
      ++ "        owner: Generated class, None until the class is created\n    ")
  | stubClassMethod =>
    some ("Class-level generated member (public_class or private_class).\n\n"
      ++ "    Binds to the class, also when looked up through an instance.\n    ")
  | generator =>
    some ("Declaration session producing stub classes.\n\n    States:\n"
      ++ "        configuring: declarations accepted\n"
      ++ "        built: at least one class produced; declarations still accepted\n"
      ++ "               and only affect later builds\n\n"
      ++ "    Declarations are frozen when appended, so build() never observes\n"
      ++ "    later mutation of a MethodConfig.\n\n"
      ++ "    Not safe for concurrent use from several threads.\n\n    Attributes:\n"
      ++ "        _methods: Instance-level definitions, declaration order\n"
      ++ "        _class_methods: Class-level definitions, declaration order\n"
      ++ "        _config: Class name and random ranges\n"
      ++ "        _source: Random source shared by built classes\n    ")
  | builder =>
    some ("Mutable builder for one method declaration.\n\n"
      ++ "    Every verb returns the builder, so calls chain:\n\n"
      ++ "        m.required(\"name\").keyword(\"timeout\", 30).returns(True)\n\n"
      ++ "    Not thread-safe.\n    ")
  | definition =>
    some ("Immutable method declaration.\n\n    Attributes:\n        name: Method name\n"
      ++ "        visibility: Declared visibility\n"
      ++ "        parameters: Parameters in call-signature order\n"
      ++ "        return_value: Literal value or random marker\n"
      ++ "        generate_random: Random generation requested\n    ")
  | parameter =>
    some ("One formal parameter of a generated method.\n\n"
      ++ "    Kind may be given as ParameterKind or its string value; it is\n"
      ++ "    stored as ParameterKind. Default is kept for every kind but only\n"
      ++ "    applied for OPTIONAL and KEYWORD.\n\n    Examples:\n"
      ++ "        Parameter(\"required\", \"x\").render()          → \"x\"\n"
      ++ "        Parameter(\"optional\", \"y\", 10).render()      → \"y = 10\"\n"
      ++ "        Parameter(\"keyword_required\", \"fmt\").render() → \"fmt:\"\n"
      ++ "        Parameter(\"keyword\", \"timeout\", 30).render()  → \"timeout: 30\"\n\n"
      ++ "    Attributes:\n        kind: Parameter kind\n        name: Identifier\n"
      ++ "        default: Default value for OPTIONAL and KEYWORD\n    ")
  | settings =>
    some ("Generator settings.\n\n    Attributes:\n"
      ++ "        class_name: __name__ of built classes\n"
      ++ "        integer_min: Lower bound (inclusive) of random integers, >= 1\n"
      ++ "        integer_max: Upper bound (inclusive) of random integers\n"
      ++ "        string_length: Length of random strings and symbols, >= 1\n    ")
  | parameterKind =>
    some ("Declared parameter kind.\n\n"
      ++ "    Values double as the DSL verb names on MethodConfig.\n    ")
  | visibility =>
    some "Declared member visibility."
  | seededSource =>
    some ("Deterministic random source.\n\n"
      ++ "    Two sources created with the same seed produce the same sequence.\n\n"
      ++ "    Attributes:\n        seed: Seed the source was created with\n    ")
  | systemSource =>
    some "Random source backed by the secrets module."
  | _ => Option.none

end StubClass
