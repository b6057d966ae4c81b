import StubClass.Manual.Note

set_option autoImplicit false

/-! # Notes on attributes: classes, functions and methods -/

namespace StubClass.Manual

/-- What the attributes of all objects say of themselves. -/
def objectNotes : List Note :=
  [
    ⟨"__class__", none, "the object's class"⟩,
    ⟨"__dir__", "($self, /)", "Default dir() implementation."⟩,
    ⟨"__format__", "($self, format_spec, /)", "Default object formatter."⟩,
    ⟨"__getstate__", "($self, /)", "Helper for pickle."⟩,
    ⟨"__init_subclass__", none,
     ("This method is called when a class is subclassed.\n\nThe default implementation does "
      ++ "nothing. It may be\noverridden to extend subclasses.\n")⟩,
    ⟨"__reduce__", "($self, /)", "Helper for pickle."⟩,
    ⟨"__reduce_ex__", "($self, protocol, /)", "Helper for pickle."⟩,
    ⟨"__sizeof__", "($self, /)", "Size of object in memory, in bytes."⟩,
    ⟨"__subclasshook__", none,
     ("Abstract classes can override this to customize issubclass().\n\nThis is invoked "
      ++ "early on by abc.ABCMeta.__subclasscheck__().\nIt should return True, False or "
      ++ "NotImplemented.  If it returns\nNotImplemented, the normal algorithm is used.  "
      ++ "Otherwise, it\noverrides the normal algorithm (and the outcome is cached).\n")⟩]

/-- What the attributes of classes say of themselves. -/
def typeNotes : List Note :=
  [
    ⟨"__dir__", "($self, /)", "Specialized __dir__ implementation for types."⟩,
    ⟨"__instancecheck__", "($self, instance, /)", "Check if an object is an instance."⟩,
    ⟨"__prepare__", none,
     "__prepare__() -> dict\nused to create the namespace for the class statement"⟩,
    ⟨"__sizeof__", "($self, /)", "Return memory consumption of the type object."⟩,
    ⟨"__subclasscheck__", "($self, subclass, /)", "Check if a class is a subclass."⟩,
    ⟨"__subclasses__", "($self, /)", "Return a list of immediate subclasses."⟩,
    ⟨"mro", "($self, /)", "Return a type's method resolution order."⟩]

/-- What the attributes of code say of themselves. -/
def codeNotes : List Note :=
  [
    ⟨"_varname_from_oparg", "($self, /, oparg)",
     ("(internal-only) Return the local variable name for the given oparg.\n\nWARNING: this "
      ++ "method is for internal use only and may change or go away.")⟩,
    ⟨"replace", "($self, /, **changes)",
     "Return a copy of the code object with new values for the specified fields."⟩]

/-- What the attributes of methods say of themselves. -/
def methodNotes : List Note :=
  [
    ⟨"__func__", none, "the function (or other callable) implementing a method"⟩,
    ⟨"__reduce__", "($self, /)", none⟩,
    ⟨"__self__", none, "the instance to which a method is bound"⟩]

/-- What the attributes of properties say of themselves. -/
def propertyNotes : List Note :=
  [
    ⟨"__set_name__", none, "Method to set name of a property."⟩,
    ⟨"deleter", none, "Descriptor to obtain a copy of the property with a different deleter."⟩,
    ⟨"getter", none, "Descriptor to obtain a copy of the property with a different getter."⟩,
    ⟨"setter", none, "Descriptor to obtain a copy of the property with a different setter."⟩]

/-- What the attributes of calls prepared in part say of themselves. -/
def partialCallNotes : List Note :=
  [
    ⟨"__class_getitem__", none, "See PEP 585"⟩,
    ⟨"args", none, "tuple of arguments to future partial calls"⟩,
    ⟨"func", none, "function object to use in future partial calls"⟩,
    ⟨"keywords", none, "dictionary of keyword arguments to future partial calls"⟩]

/-- What the attributes of types with arguments say of themselves. -/
def appliedNotes : List Note :=
  [
    ⟨"__parameters__", none, "Type variables in the GenericAlias."⟩]

/-- What the attributes of modules say of themselves. -/
def moduleNotes : List Note :=
  [
    ⟨"__dir__", none, "__dir__() -> list\nspecialized dir() implementation"⟩]

/-- What the attributes of iterators made by code say of themselves. -/
def producerNotes : List Note :=
  [
    ⟨"__name__", none, "name of the generator"⟩,
    ⟨"__qualname__", none, "qualified name of the generator"⟩,
    ⟨"__sizeof__", none, "gen.__sizeof__() -> size of gen in memory, in bytes"⟩,
    ⟨"close", none, "close() -> raise GeneratorExit inside generator."⟩,
    ⟨"gi_yieldfrom", none, "object being iterated by yield from, or None"⟩,
    ⟨"send", none,
     ("send(arg) -> send 'arg' into generator,\nreturn next yielded value or raise "
      ++ "StopIteration.")⟩,
    ⟨"throw", none,
     ("throw(value)\nthrow(type[,value[,tb]])\n\nRaise exception in generator, return next "
      ++ "yielded value or raise\nStopIteration.")⟩]

end StubClass.Manual
