import StubClass.Manual.Note

set_option autoImplicit false

/-! # Notes on attributes: enumerations, signatures and random numbers -/

namespace StubClass.Manual

/-- What the functions of members of enumerations say of themselves. -/
def choiceNotes : List Note :=
  [
    ⟨"__dir__", none,
     "\n        Returns public methods and other interesting attributes.\n        "⟩]

/-- What the functions of enumerations say of themselves. -/
def choiceTypeNotes : List Note :=
  [
    ⟨"__bool__", none, "\n        classes/types should always be True.\n        "⟩,
    ⟨"__call__", none,
     ("\n        Either returns an existing member, or creates a new enum class.\n\n        "
      ++ "This method is used both when an enum class is given a value to match\n        to "
      ++ "an enumeration member (i.e. Color(3)) and for the functional API\n        (i.e. "
      ++ "Color = Enum('Color', names='RED GREEN BLUE')).\n\n        When used for the "
      ++ "functional API:\n\n        `value` will be the name of the new class.\n\n        "
      ++ "`names` should be either a string of white-space/comma delimited names\n        "
      ++ "(values will start at `start`), or an iterator/mapping of name, value pairs.\n\n  "
      ++ "      `module` should be set to the module this class is being created in;\n      "
      ++ "  if it is not set, an attempt to find that module will be made, but if\n        "
      ++ "it fails the class will not be picklable.\n\n        `qualname` should be set to "
      ++ "the actual location this class can be found\n        at in its module; by default "
      ++ "it is set to the global scope.  If this is\n        not correct, unpickling will "
      ++ "fail in some circumstances.\n\n        `type`, if set, will be mixed in as the "
      ++ "first base class.\n        ")⟩,
    ⟨"__contains__", none,
     ("\n        Return True if member is a member of this enum\n        raises TypeError "
      ++ "if member is not an enum member\n\n        note: in 3.12 TypeError will no longer "
      ++ "be raised, and True will also be\n        returned if member is the value of a "
      ++ "member in this enum\n        ")⟩,
    ⟨"__getattr__", none,
     ("\n        Return the enum member matching `name`\n\n        We use __getattr__ "
      ++ "instead of descriptors or inserting into the enum\n        class' __dict__ in "
      ++ "order to support `name` and `value` being both\n        properties for enum "
      ++ "members (which live in the class' __dict__) and\n        enum members themselves."
      ++ "\n        ")⟩,
    ⟨"__getitem__", none, "\n        Return the member matching `name`.\n        "⟩,
    ⟨"__iter__", none, "\n        Return members in definition order.\n        "⟩,
    ⟨"__len__", none, "\n        Return the number of members (no aliases)\n        "⟩,
    ⟨"__members__", none,
     ("\n        Returns a mapping of member name->value.\n\n        This mapping lists all "
      ++ "enum members, including aliases. Note that this\n        is a read-only view of "
      ++ "the internal mapping.\n        ")⟩,
    ⟨"__reversed__", none, "\n        Return members in reverse definition order.\n        "⟩,
    ⟨"__setattr__", none,
     ("\n        Block attempts to reassign Enum members.\n\n        A simple assignment to "
      ++ "the class namespace only changes one of the\n        several possible ways to get "
      ++ "an Enum member from the Enum class,\n        resulting in an inconsistent "
      ++ "Enumeration.\n        ")⟩,
    ⟨"_create_", none,
     ("\n        Convenience method to create a new Enum class.\n\n        `names` can be:"
      ++ "\n\n        * A string containing member names, separated either with spaces or\n "
      ++ "         commas.  Values are incremented by 1 from `start`.\n        * An "
      ++ "iterable of member names.  Values are incremented by 1 from `start`.\n        * "
      ++ "An iterable of (member name, value) pairs.\n        * A mapping of member name -> "
      ++ "value pairs.\n        ")⟩]

/-- What the functions of signatures say of themselves. -/
def signatureNotes : List Note :=
  [
    ⟨"__init__", none,
     ("Constructs Signature from the given list of Parameter\n        objects and "
      ++ "'return_annotation'.  All arguments are optional.\n        ")⟩,
    ⟨"_bind", none, "Private method. Don't use directly."⟩,
    ⟨"bind", none,
     ("Get a BoundArguments object, that maps the passed `args`\n        and `kwargs` to "
      ++ "the function's signature.  Raises `TypeError`\n        if the passed arguments "
      ++ "can not be bound.\n        ")⟩,
    ⟨"bind_partial", none,
     ("Get a BoundArguments object, that partially maps the\n        passed `args` and "
      ++ "`kwargs` to the function's signature.\n        Raises `TypeError` if the passed "
      ++ "arguments can not be bound.\n        ")⟩,
    ⟨"replace", none,
     ("Creates a customized copy of the Signature.\n        Pass 'parameters' and/or "
      ++ "'return_annotation' arguments\n        to override them in the new copy.\n        ")⟩]

/-- What the functions of parameters of signatures say of themselves. -/
def signatureParameterNotes : List Note :=
  [
    ⟨"replace", none, "Creates a customized copy of the Parameter."⟩]

/-- What the functions of bound arguments say of themselves. -/
def boundArgumentsNotes : List Note :=
  [
    ⟨"apply_defaults", none,
     ("Set default values for missing arguments.\n\n        For variable-positional "
      ++ "arguments (*args) the default is an\n        empty tuple.\n\n        For "
      ++ "variable-keyword arguments (**kwargs) the default is an\n        empty dict.\n    "
      ++ "    ")⟩]

/-- What the functions of random number generators say of themselves. -/
def randomGeneratorNotes : List Note :=
  [
    ⟨"__init__", none,
     ("Initialize an instance.\n\n        Optional argument x controls seeding, as for "
      ++ "Random.seed().\n        ")⟩,
    ⟨"_randbelow", none, "Return a random int in the range [0,n).  Defined for n > 0."⟩,
    ⟨"betavariate", none,
     ("Beta distribution.\n\n        Conditions on the parameters are alpha > 0 and beta > "
      ++ "0.\n        Returned values range between 0 and 1.\n\n        ")⟩,
    ⟨"choice", none, "Choose a random element from a non-empty sequence."⟩,
    ⟨"choices", none,
     ("Return a k sized list of population elements chosen with replacement.\n\n        If "
      ++ "the relative weights or cumulative weights are not specified,\n        the "
      ++ "selections are made with equal probability.\n\n        ")⟩,
    ⟨"expovariate", none,
     ("Exponential distribution.\n\n        lambd is 1.0 divided by the desired mean.  It "
      ++ "should be\n        nonzero.  (The parameter would be called \"lambda\", but that "
      ++ "is\n        a reserved word in Python.)  Returned values range from 0 to\n        "
      ++ "positive infinity if lambd is positive, and from negative\n        infinity to 0 "
      ++ "if lambd is negative.\n\n        ")⟩,
    ⟨"gammavariate", none,
     ("Gamma distribution.  Not the gamma function!\n\n        Conditions on the parameters "
      ++ "are alpha > 0 and beta > 0.\n\n        The probability distribution function is:"
      ++ "\n\n                    x ** (alpha - 1) * math.exp(-x / beta)\n          pdf(x) "
      ++ "=  --------------------------------------\n                      "
      ++ "math.gamma(alpha) * beta ** alpha\n\n        ")⟩,
    ⟨"gauss", none,
     ("Gaussian distribution.\n\n        mu is the mean, and sigma is the standard "
      ++ "deviation.  This is\n        slightly faster than the normalvariate() function."
      ++ "\n\n        Not thread-safe without a lock around calls.\n\n        ")⟩,
    ⟨"getstate", none, "Return internal state; can be passed to setstate() later."⟩,
    ⟨"lognormvariate", none,
     ("Log normal distribution.\n\n        If you take the natural logarithm of this "
      ++ "distribution, you'll get a\n        normal distribution with mean mu and standard "
      ++ "deviation sigma.\n        mu can have any value, and sigma must be greater than "
      ++ "zero.\n\n        ")⟩,
    ⟨"normalvariate", none,
     ("Normal distribution.\n\n        mu is the mean, and sigma is the standard deviation."
      ++ "\n\n        ")⟩,
    ⟨"paretovariate", none, "Pareto distribution.  alpha is the shape parameter."⟩,
    ⟨"randbytes", none, "Generate n random bytes."⟩,
    ⟨"randint", none,
     "Return random integer in range [a, b], including both end points.\n        "⟩,
    ⟨"randrange", none,
     ("Choose a random item from range(stop) or range(start, stop[, step]).\n\n        "
      ++ "Roughly equivalent to ``choice(range(start, stop, step))`` but\n        supports "
      ++ "arbitrarily large ranges and is optimized for common cases.\n\n        ")⟩,
    ⟨"sample", none,
     ("Chooses k unique random elements from a population sequence.\n\n        Returns a "
      ++ "new list containing elements from the population while\n        leaving the "
      ++ "original population unchanged.  The resulting list is\n        in selection order "
      ++ "so that all sub-slices will also be valid random\n        samples.  This allows "
      ++ "raffle winners (the sample) to be partitioned\n        into grand prize and "
      ++ "second place winners (the subslices).\n\n        Members of the population need "
      ++ "not be hashable or unique.  If the\n        population contains repeats, then "
      ++ "each occurrence is a possible\n        selection in the sample.\n\n        "
      ++ "Repeated elements can be specified one at a time or with the optional\n        "
      ++ "counts parameter.  For example:\n\n            sample(['red', 'blue'], counts=[4, "
      ++ "2], k=5)\n\n        is equivalent to:\n\n            sample(['red', 'red', 'red', "
      ++ "'red', 'blue', 'blue'], k=5)\n\n        To choose a sample from a range of "
      ++ "integers, use range() for the\n        population argument.  This is especially "
      ++ "fast and space efficient\n        for sampling from a large population:\n\n       "
      ++ "     sample(range(10000000), 60)\n\n        ")⟩,
    ⟨"seed", none,
     ("Initialize internal state from a seed.\n\n        The only supported seed types are "
      ++ "None, int, float,\n        str, bytes, and bytearray.\n\n        None or no "
      ++ "argument seeds from current time or from an operating\n        system specific "
      ++ "randomness source if available.\n\n        If *a* is an int, all bits are used."
      ++ "\n\n        For version 2 (the default), all of the bits are used if *a* is a str,"
      ++ "\n        bytes, or bytearray.  For version 1 (provided for reproducing random\n  "
      ++ "      sequences from older versions of Python), the algorithm for str and\n       "
      ++ " bytes generates a narrower range of seeds.\n\n        ")⟩,
    ⟨"setstate", none, "Restore internal state from object returned by getstate()."⟩,
    ⟨"shuffle", none, "Shuffle list x in place, and return None."⟩,
    ⟨"triangular", none,
     ("Triangular distribution.\n\n        Continuous distribution bounded by given lower "
      ++ "and upper limits,\n        and having a given mode value in-between.\n\n        ")⟩,
    ⟨"uniform", none, "Get a random number in the range [a, b) or [a, b] depending on rounding."⟩,
    ⟨"vonmisesvariate", none,
     ("Circular data distribution.\n\n        mu is the mean angle, expressed in radians "
      ++ "between 0 and 2*pi, and\n        kappa is the concentration parameter, which must "
      ++ "be greater than or\n        equal to zero.  If kappa is equal to zero, this "
      ++ "distribution reduces\n        to a uniform random angle over the range 0 to 2*pi."
      ++ "\n\n        ")⟩,
    ⟨"weibullvariate", none,
     ("Weibull distribution.\n\n        alpha is the scale parameter and beta is the shape "
      ++ "parameter.\n\n        ")⟩]

end StubClass.Manual
