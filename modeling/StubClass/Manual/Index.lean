import StubClass.Builtin.Attributes
import StubClass.Manual.Callable
import StubClass.Manual.Container
import StubClass.Manual.Foundation
import StubClass.Manual.Library
import StubClass.Manual.Number
import StubClass.Manual.Operator
import StubClass.Manual.Text

set_option autoImplicit false

/-! # Finding notes

What an attribute of a built-in type says of itself: what is noted for its type, or else for all
types that have an operator or a free function of its name. -/

namespace StubClass

namespace Manual

/-- What the attributes of iterators say of themselves. -/
def iteratorNotes : List Note :=
  [⟨"__length_hint__", none, "Private method returning an estimate of len(list(it))."⟩,
    ⟨"__reduce__", none, "Return state information for pickling."⟩,
    ⟨"__setstate__", none, "Set state information for unpickling."⟩]

/-- What the attributes that a class gives its objects say of themselves. -/
def openedNotes : List Note :=
  [⟨"__dict__", none, "dictionary for instance variables"⟩,
    ⟨"__weakref__", none, "list of weak references to the object"⟩]

/-- What the function that makes an object says of itself. -/
def maker : Note :=
  ⟨"__new__", "($type, *args, **kwargs)",
    "Create and return a new object.  See help(type) for accurate signature."⟩

/-- The note for a name. -/
def find? (notes : List Note) (name : String) : Option Note :=
  notes.find? fun n => n.name == name

end Manual

namespace BuiltinType

open Manual

/-- What is noted for the attributes of a type. -/
def notes : BuiltinType → List Note
  | str => strNotes
  | bytes => bytesNotes
  | int => intNotes
  | float => floatNotes
  | complex => complexNotes
  | randomCore => randomCoreNotes
  | list => listNotes
  | tuple => tupleNotes
  | dict => dictNotes
  | set => setNotes
  | readOnlyDict => readOnlyDictNotes
  | keysView => keysViewNotes
  | valuesView => valuesViewNotes
  | entriesView => entriesViewNotes
  | object => objectNotes
  | type => typeNotes
  | code => codeNotes
  | method => methodNotes
  | property => propertyNotes
  | partialCall => partialCallNotes
  | module => moduleNotes
  | producer => producerNotes
  | generator => generatorNotes
  | builder => builderNotes
  | definition => definitionNotes
  | parameter => parameterNotes
  | settings => settingsNotes
  | parameterKind => parameterKindNotes
  | visibility => visibilityNotes
  | stubMethod => stubMethodNotes
  | seededSource => seededSourceNotes
  | systemSource => systemSourceNotes
  | choice => choiceNotes
  | choiceType => choiceTypeNotes
  | signature => signatureNotes
  | signatureParameter => signatureParameterNotes
  | boundArguments => boundArgumentsNotes
  | randomGenerator => randomGeneratorNotes
  | t => if t.isIterator then iteratorNotes else []

/-- What an attribute of a type says of itself. -/
def note? (t : BuiltinType) (name : String) : Option Note :=
  match t.attributeKind? name with
  | some .slot => find? operators name
  | some .free => if name == "__new__" then some maker else find? t.notes name
  | some .computed =>
    (find? t.notes name).or (if t.isChangeable then find? openedNotes name else Option.none)
  | _ => find? t.notes name

/-- How a type is called, if it says so. -/
def signature? : BuiltinType → Option String
  | object => "()"
  | float => "(x=0, /)"
  | complex => "(real=0, imag=0)"
  | list | tuple => "(iterable=(), /)"
  | function => "(code, globals, name=None, argdefs=None, closure=None)"
  | code =>
    "(argcount, posonlyargcount, kwonlyargcount, nlocals, stacksize,\n     flags, codestring, "
      ++ "constants, names, varnames, filename, name,\n     qualname, firstlineno, linetable, "
      ++ "exceptiontable, freevars=(),\n     cellvars=(), /)"
  | method => "(function, instance, /)"
  | property => "(fget=None, fset=None, fdel=None, doc=None)"
  | reversed => "(sequence, /)"
  | module => "(name, doc=None)"
  | _ => Option.none

/-- Whether the texts that a type tells of itself are made anew each time. -/
def isStatic (t : BuiltinType) : Bool :=
  !t.isChangeable && t != partialCall && t != randomCore

end BuiltinType

end StubClass
