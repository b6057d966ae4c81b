set_option autoImplicit false

/-! # Built-in types

The types that are there before any class is made: those of plain values, those of the objects that
a class is put together from, and those of the objects of this library. Each has a name, a module
that it is found in, and a type that it is derived from. -/

namespace StubClass

/-- The types that are there from the start. -/
inductive BuiltinType where
  | int | str | symbol | bool | float | list | dict | tuple | bytes | object | type | none
  | unknownOperand | ellipsis | set
  | function | code | method | builtinMethod | slotMethod
  | methodAttribute | slotAttribute | computedAttribute | fieldAttribute | classAttribute
  | classMethod | staticMethod | property | partialCall | cachedProperty | partialMethod
  | stubMethod | stubClassMethod
  | generator | builder | definition | parameter | settings
  | choice | choiceType | choiceProperty | parameterKind | visibility
  | signature | signatureParameter | boundArguments | parameterPassing | noDefault | leftOut
  | randomCore | randomGenerator
  | seededSource | fixedSource | systemSource
  /-- A dictionary that is only read. -/
  | readOnlyDict
  | keysView | valuesView | entriesView
  | listIterator | listReverseIterator | tupleIterator | asciiIterator | textIterator
  | bytesIterator | keyIterator | valueIterator | entryIterator
  | keyReverseIterator | valueReverseIterator | entryReverseIterator | setIterator
  /-- An iterator over a sequence from behind. -/
  | reversed
  /-- An iterator that is made by code. -/
  | producer
  /-- What holds free functions. -/
  | module
  /-- A dictionary whose order counts, and what shows it. -/
  | orderedDict | orderedKeys | orderedValues | orderedEntries | orderedIterator
  /-- What code is closed over. -/
  | cell
  | complex
  /-- A type with arguments, and several types in one. -/
  | appliedType | typeUnion | appliedIterator
  /-- Enumerations whose members are numbers, and those that are written like what they are. -/
  | numberChoice | writtenChoice
  /-- A plain object. -/
  | box
  /-- An object that answers every attribute with itself. -/
  | echo
deriving Repr, DecidableEq, Inhabited

namespace BuiltinType

/-- The types of plain values, with the type of all objects and the type of all types. -/
def plainTypes : List BuiltinType :=
  [object, type, int, str, float, list, dict, tuple, bytes, none, bool, symbol]

/-- All built-in types. -/
def all : List BuiltinType :=
  plainTypes ++ [unknownOperand, ellipsis, set, function, code, method, builtinMethod, slotMethod,
    methodAttribute, slotAttribute, computedAttribute, fieldAttribute, classAttribute, classMethod,
    staticMethod, property, partialCall, cachedProperty, partialMethod, stubMethod, stubClassMethod,
    generator, builder, definition, parameter, settings, choice, choiceType, choiceProperty,
    parameterKind, visibility, signature, signatureParameter, boundArguments, parameterPassing,
    noDefault, leftOut, randomCore, randomGenerator, seededSource, fixedSource, systemSource,
    readOnlyDict, keysView, valuesView, entriesView, listIterator, listReverseIterator,
    tupleIterator, asciiIterator, textIterator, bytesIterator, keyIterator, valueIterator,
    entryIterator, keyReverseIterator, valueReverseIterator, entryReverseIterator, setIterator,
    reversed, producer, module, orderedDict, orderedKeys, orderedValues, orderedEntries,
    orderedIterator, cell,
    complex,
    appliedType, typeUnion, appliedIterator, writtenChoice, numberChoice, box, echo]

/-- Whether a type is one of iterators. -/
def isIterator : BuiltinType → Bool
  | listIterator | listReverseIterator | tupleIterator | asciiIterator | textIterator
  | bytesIterator | keyIterator | valueIterator | entryIterator | keyReverseIterator
  | valueReverseIterator | entryReverseIterator | setIterator | reversed | producer
  | orderedIterator | appliedIterator => true
  | _ => false

/-- The name of a type. -/
def name : BuiltinType → String
  | int => "int"
  | str => "str"
  | symbol => "Symbol"
  | bool => "bool"
  | float => "float"
  | list => "list"
  | dict => "dict"
  | tuple => "tuple"
  | bytes => "bytes"
  | object => "object"
  | type => "type"
  | none => "NoneType"
  | unknownOperand => "NotImplementedType"
  | ellipsis => "ellipsis"
  | set => "set"
  | function => "function"
  | code => "code"
  | method => "method"
  | builtinMethod => "builtin_function_or_method"
  | slotMethod => "method-wrapper"
  | methodAttribute => "method_descriptor"
  | slotAttribute => "wrapper_descriptor"
  | computedAttribute => "getset_descriptor"
  | fieldAttribute => "member_descriptor"
  | classAttribute => "classmethod_descriptor"
  | classMethod => "classmethod"
  | staticMethod => "staticmethod"
  | property => "property"
  | partialCall => "partial"
  | cachedProperty => "cached_property"
  | partialMethod => "partialmethod"
  | stubMethod => "StubMethod"
  | stubClassMethod => "StubClassMethod"
  | generator => "Generator"
  | builder => "MethodConfig"
  | definition => "MethodDefinition"
  | parameter => "Parameter"
  | settings => "GeneratorConfig"
  | choice => "Enum"
  | choiceType => "EnumType"
  | choiceProperty => "property"
  | signature => "Signature"
  | signatureParameter => "Parameter"
  | boundArguments => "BoundArguments"
  | parameterPassing => "_ParameterKind"
  | noDefault => "_empty"
  | leftOut => "_void"
  | randomCore | randomGenerator => "Random"
  | readOnlyDict => "mappingproxy"
  | keysView => "dict_keys"
  | valuesView => "dict_values"
  | entriesView => "dict_items"
  | listIterator => "list_iterator"
  | listReverseIterator => "list_reverseiterator"
  | tupleIterator => "tuple_iterator"
  | asciiIterator => "str_ascii_iterator"
  | textIterator => "str_iterator"
  | bytesIterator => "bytes_iterator"
  | keyIterator => "dict_keyiterator"
  | valueIterator => "dict_valueiterator"
  | entryIterator => "dict_itemiterator"
  | keyReverseIterator => "dict_reversekeyiterator"
  | valueReverseIterator => "dict_reversevalueiterator"
  | entryReverseIterator => "dict_reverseitemiterator"
  | setIterator => "set_iterator"
  | reversed => "reversed"
  | producer => "generator"
  | module => "module"
  | orderedDict => "OrderedDict"
  | orderedKeys => "odict_keys"
  | orderedValues => "odict_values"
  | orderedEntries => "odict_items"
  | orderedIterator => "odict_iterator"
  | cell => "cell"
  | complex => "complex"
  | appliedType => "GenericAlias"
  | typeUnion => "UnionType"
  | appliedIterator => "generic_alias_iterator"
  | numberChoice => "IntEnum"
  | writtenChoice => "ReprEnum"
  | parameterKind => "ParameterKind"
  | visibility => "Visibility"
  | seededSource => "SeededRandomSource"
  | fixedSource => "FixedSource"
  | systemSource => "SecretsRandomSource"
  | box => "Box"
  | echo => "Dynamic"

/-- The name of a type in messages about its objects. -/
def title : BuiltinType → String
  | partialCall => "functools.partial"
  | randomCore => "_random.Random"
  | orderedDict => "collections.OrderedDict"
  | appliedType => "types.GenericAlias"
  | typeUnion => "types.UnionType"
  | t => t.name

/-- The module of the types that need none. -/
def standardModule : String := "builtins"

/-- The module that a type is found in. -/
def moduleName : BuiltinType → String
  | partialCall | cachedProperty | partialMethod => "functools"
  | symbol => "code_generator.domain.model.markers"
  | stubMethod | stubClassMethod => "code_generator.application.stub_method"
  | generator => "code_generator.presentation.api.generator"
  | builder | definition => "code_generator.domain.model.method_config"
  | parameter => "code_generator.domain.model.parameter"
  | settings => "code_generator.domain.model.configuration"
  | parameterKind | visibility => "code_generator.domain.model.enums"
  | seededSource | systemSource => "code_generator.infrastructure.random_sources"
  | choice | choiceType | choiceProperty | numberChoice | writtenChoice => "enum"
  | orderedDict => "collections"
  | appliedType | typeUnion => "types"
  | signature | signatureParameter | boundArguments | parameterPassing | noDefault | leftOut =>
    "inspect"
  | randomCore => "_random"
  | randomGenerator => "random"
  | fixedSource | box | echo => "__main__"
  | _ => standardModule

/-- A type as it is named in full. -/
def path (t : BuiltinType) : String :=
  if t.moduleName == standardModule then t.name else t.moduleName ++ "." ++ t.name

/-- The literal form of a type. -/
def literal (t : BuiltinType) : String :=
  "<class '" ++ t.path ++ "'>"

/-- The type that a built-in type is derived from. -/
def base? : BuiltinType → Option BuiltinType
  | object => Option.none
  | bool => some int
  | symbol => some str
  | stubClassMethod => some stubMethod
  | choiceType => some type
  | parameterKind | visibility | writtenChoice => some choice
  | numberChoice => some int
  | parameterPassing => some numberChoice
  | orderedDict => some dict
  | orderedKeys => some keysView
  | orderedValues => some valuesView
  | orderedEntries => some entriesView
  | randomGenerator => some randomCore
  | _ => some object

/-- The resolution order of a built-in type. -/
def order : BuiltinType → List BuiltinType
  | object => [object]
  | bool => [bool, int, object]
  | symbol => [symbol, str, object]
  | stubClassMethod => [stubClassMethod, stubMethod, object]
  | choiceType => [choiceType, type, object]
  | parameterKind => [parameterKind, choice, object]
  | visibility => [visibility, choice, object]
  | writtenChoice => [writtenChoice, choice, object]
  | numberChoice => [numberChoice, int, writtenChoice, choice, object]
  | parameterPassing => [parameterPassing, numberChoice, int, writtenChoice, choice, object]
  | orderedDict => [orderedDict, dict, object]
  | orderedKeys => [orderedKeys, keysView, object]
  | orderedValues => [orderedValues, valuesView, object]
  | orderedEntries => [orderedEntries, entriesView, object]
  | randomGenerator => [randomGenerator, randomCore, object]
  | t => [t, object]

/-- Whether classes can be derived from a type. -/
def isOpen : BuiltinType → Bool
  | bool | none | unknownOperand | ellipsis | function | code | method | builtinMethod | slotMethod
  | methodAttribute | slotAttribute | computedAttribute | fieldAttribute | classAttribute
  | readOnlyDict | keysView | valuesView | entriesView | orderedKeys | orderedValues
  | orderedEntries
  | cell | typeUnion => false
  | t => t == reversed || !t.isIterator

/-- Whether the class of a type can be changed: what it holds is kept like that of a class that was
made. -/
def isChangeable (t : BuiltinType) : Bool :=
  t.moduleName != standardModule
    && [partialCall, randomCore, orderedDict, appliedType, typeUnion].all (· != t)

/-- The type that gives the objects of a type their inner make, if it has one of its own. -/
def layout : BuiltinType → BuiltinType
  | bool => int
  | symbol => str
  | parameterPassing | numberChoice => int
  | choiceType => type
  | randomGenerator => randomCore
  | box | echo | fixedSource | systemSource | choice | choiceProperty | parameterKind | visibility
  | cachedProperty | partialMethod | noDefault | leftOut | writtenChoice => object
  | stubClassMethod => stubMethod
  | t => t

end BuiltinType

end StubClass
