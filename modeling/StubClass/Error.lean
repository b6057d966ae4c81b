import StubClass.Name
import StubClass.Text.Case
import StubClass.Text.Clip
import StubClass.Value.Text

set_option autoImplicit false

/-! # Errors

Every way in which an operation can fail is a constructor of `Error`, and `Error.message` is the one
place that words it. The nine declared errors carry attributes; their wording is a function of the
attributes alone, so that such an error can also be made up from given attributes (`Report`). -/

namespace StubClass

/-! ## Causes -/

/-- The rule of parameter order that a declaration breaks. -/
inductive OrderRule where
  | positionalAfterKeyword
  | requiredAfterOptional
deriving Repr, DecidableEq

/-- The words for a broken rule. -/
def OrderRule.reason : OrderRule → String
  | positionalAfterKeyword => "positional parameter after keyword parameter"
  | requiredAfterOptional => "required parameter after optional parameter"

/-- How an argument reaches a parameter, from the first of a signature to the last. -/
inductive Passing where
  | positionalOnly
  | positional
  | keywordOnly
deriving Repr, DecidableEq, Inhabited

/-- The rank of a way of passing in a signature. -/
def Passing.rank : Passing → Nat
  | positionalOnly => 0
  | positional => 1
  | keywordOnly => 2

/-- The words for a way of passing. -/
def Passing.phrase : Passing → String
  | positionalOnly => "positional-only"
  | positional => "positional or keyword"
  | keywordOnly => "keyword-only"

/-- Why a list of parameters is no signature. -/
inductive SignatureFault where
  | wrongOrder (before after : Passing)
  | requiredAfterDefault
  | duplicate (name : Name)
deriving Repr, DecidableEq

/-- The words for a list that is no signature. -/
def SignatureFault.message : SignatureFault → String
  | wrongOrder before after =>
    "wrong parameter order: " ++ before.phrase ++ " parameter before " ++ after.phrase
      ++ " parameter"
  | requiredAfterDefault => "non-default argument follows default argument"
  | duplicate name => "duplicate parameter name: " ++ name.toValue.literal

/-- Why arguments do not fit a signature, with the name of a parameter or of a keyword. -/
inductive BindFault (η : Type) where
  | tooManyPositionals
  | multipleValues (name : η)
  | missing (name : η)
  | unexpectedKeyword (name : η)
  /-- An argument by keyword for a parameter that goes by position only. -/
  | positionalOnly (name : η)
deriving Repr, DecidableEq

namespace BindFault

variable {η : Type}

/-- The name that arguments do not fit for. -/
def name? : BindFault η → Option η
  | tooManyPositionals => none
  | multipleValues name | missing name | unexpectedKeyword name | positionalOnly name => some name

/-- The words before the name. -/
def before : BindFault η → String
  | tooManyPositionals => "too many positional arguments"
  | multipleValues _ => "multiple values for argument "
  | missing _ => "missing a required argument: "
  | unexpectedKeyword _ => "got an unexpected keyword argument "
  | positionalOnly _ => ""

/-- The words behind the name. -/
def behind : BindFault η → String
  | positionalOnly _ => " parameter is positional only, but was passed as a keyword"
  | _ => ""

/-- The words for arguments that do not fit. -/
def reason (fault : BindFault Name) : String :=
  fault.before ++ (fault.name?.map fun n => n.toValue.literal).getD "" ++ fault.behind

end BindFault

/-- Why a function refuses the arguments of a call. -/
inductive CallFault where
  /-- An argument by keyword that no parameter has the name of. -/
  | unexpected (keyword : String)
  /-- An argument by keyword for a parameter that was given by position. -/
  | repeated (keyword : String)
  /-- Arguments by keyword for parameters that go by position only. -/
  | positionalOnly (names : List String)
  /-- More arguments by position than there are parameters for them: how many there are at least and
  at most, how many were given, and how many parameters were given that go by keyword only. -/
  | tooMany (least most given keywordOnly : Nat)
  /-- Parameters without an argument, all of them by position or all by keyword only. -/
  | missing (keywordOnly : Bool) (names : List String)
deriving Repr, DecidableEq

namespace CallFault

/-- Names between quotes, with commas and a last conjunction between them. -/
def listed (names : List String) : String :=
  match names.map fun n => (Value.str n).literal with
  | [] => ""
  | [a] => a
  | [a, b] => a ++ " and " ++ b
  | quoted =>
    String.intercalate ", " quoted.dropLast ++ ", and " ++ (quoted.getLast?.getD "")

/-- A count as it is written. -/
def count (n : Nat) : String :=
  (Value.int n).literal

/-- The ending of a noun after a count. -/
def ending (n : Nat) : String :=
  if n == 1 then "" else "s"

/-- The words for refused arguments, after the name of the function. -/
def message : CallFault → String
  | unexpected keyword => "got an unexpected keyword argument " ++ (Value.str keyword).literal
  | repeated keyword => "got multiple values for argument " ++ (Value.str keyword).literal
  | positionalOnly names =>
    "got some positional-only arguments passed as keyword arguments: '"
      ++ String.intercalate ", " names ++ "'"
  | tooMany least most given keywordOnly =>
    let range := if least == most then count most
      else "from " ++ count least ++ " to " ++ count most
    let noun := if least == most && most == 1 then "argument" else "arguments"
    let beside := if keywordOnly == 0 then ""
      else " positional argument" ++ ending given ++ " (and " ++ count keywordOnly
        ++ " keyword-only argument" ++ ending keywordOnly ++ ")"
    "takes " ++ range ++ " positional " ++ noun ++ " but " ++ count given ++ beside
      ++ (if given == 1 && keywordOnly == 0 then " was given" else " were given")
  | missing keywordOnly names =>
    "missing " ++ count names.length ++ " required "
      ++ (if keywordOnly then "keyword-only" else "positional") ++ " argument"
      ++ ending names.length ++ ": " ++ listed names

end CallFault

/-- The number fields of the settings, in the order in which they are checked. -/
inductive NumberField where
  | integerMin
  | integerMax
  | stringLength
deriving Repr, DecidableEq

/-- The name of a number field. -/
def NumberField.name : NumberField → String
  | integerMin => "integer_min"
  | integerMax => "integer_max"
  | stringLength => "string_length"

/-- Why settings are refused: the field that is at fault, and what is said of it. -/
structure SettingsFault where
  field : String
  reason : String
deriving Repr

/-! ## Reports -/

/-- What an error is an instance of when it is not a declared one. -/
inductive ErrorClass where
  | badValue
  | badType
  | noAttribute
  | noKey
  | badIndex
  | overflow
  | memory
  | recursion
  | runtime
  | frozenField
  | usage
  | unknownName
  /-- A name of some code that stands for nothing. -/
  | unboundName
  | stopped
  /-- A text that cannot be written in an encoding, bytes that cannot be read in one, or either. -/
  | encoding
  | decoding
  | coding
  | zeroDivision
  /-- Something is not known by its name or key. -/
  | notFound
deriving Repr, DecidableEq, Inhabited

/-- Whether a class of errors is another one or stands under it. -/
def ErrorClass.isUnder (c d : ErrorClass) : Bool :=
  c == d ||
    match c, d with
    | .encoding, .coding | .decoding, .coding
    | .encoding, .badValue | .decoding, .badValue | .coding, .badValue | .recursion, .runtime
    | .frozenField, .noAttribute | .noKey, .notFound | .badIndex, .notFound => true
    | _, _ => false

/-- The declared errors. -/
inductive ErrorKind where
  | invalidParameterKind
  | invalidIdentifier
  | invalidVisibility
  | parameterOrder
  | duplicateParameter
  | duplicateMethod
  | invalidConfig
  | arity
  | access
deriving Repr, DecidableEq, Inhabited

/-- The name of a declared error. -/
def ErrorKind.name : ErrorKind → String
  | invalidParameterKind => "InvalidParameterKindError"
  | invalidIdentifier => "InvalidIdentifierError"
  | invalidVisibility => "InvalidVisibilityError"
  | parameterOrder => "ParameterOrderError"
  | duplicateParameter => "DuplicateParameterError"
  | duplicateMethod => "DuplicateMethodError"
  | invalidConfig => "InvalidConfigError"
  | arity => "ArityError"
  | access => "AccessError"

/-- The class of errors that a declared error stands under. -/
def ErrorKind.base : ErrorKind → ErrorClass
  | arity => .badType
  | access => .noAttribute
  | _ => .badValue

/-- A declared error with its attributes. -/
structure Report where
  kind : ErrorKind
  attributes : List (String × Value)

/-- A text with its first character in title case and the rest in lower case. -/
def Value.capitalized : Value → Value
  | .bytes bs => .bytes (Text.capitalizedBytes bs)
  | v => .str (Text.capitalized v.plain)

namespace Report

/-- The attribute under a name. -/
def get (r : Report) (name : String) : Value :=
  (r.attributes.lookup name).getD .null

/-- The wording of a declared error. -/
def message (r : Report) : String :=
  let plain (name : String) : String := (r.get name).plain
  let literal (name : String) : String := (r.get name).literal
  match r.kind with
  | .invalidParameterKind => "Invalid parameter kind: " ++ literal "kind"
  | .invalidIdentifier =>
    (r.get "role").capitalized.plain ++ " name must be a valid identifier, got " ++ literal "name"
  | .invalidVisibility => "Invalid visibility: " ++ literal "visibility"
  | .parameterOrder =>
    "Parameter '" ++ plain "parameter" ++ "' of '" ++ plain "method" ++ "': " ++ plain "reason"
  | .duplicateParameter =>
    "Duplicate parameter '" ++ plain "parameter" ++ "' in '" ++ plain "method" ++ "'"
  | .duplicateMethod => "Method '" ++ plain "name" ++ "' is already declared"
  | .invalidConfig => "Invalid config '" ++ plain "field" ++ "': " ++ plain "reason"
  | .arity => plain "method" ++ plain "signature" ++ ": " ++ plain "reason"
  | .access =>
    plain "visibility" ++ " method '" ++ plain "method" ++ "' called for " ++ plain "owner"

end Report

/-- The wording of an error that only holds values: that of one value is the value in plain form. -/
def plainMessage : List Value → String
  | [] => ""
  | [v] => v.plain
  | vs => (Value.tuple vs).literal

/-! ## Errors -/

/-- A failure of an operation. -/
inductive Error where
  /-- A value that stands for no kind of parameter. -/
  | invalidParameterKind (kind : Value)
  /-- A value that is no acceptable name; `role` says of what. -/
  | invalidIdentifier (name : Value) (role : String)
  /-- A value that stands for no visibility. -/
  | invalidVisibility (visibility : Value)
  /-- A parameter declared out of order. -/
  | parameterOrder (method parameter : Name) (rule : OrderRule)
  /-- A parameter name declared twice, or that of the receiver. -/
  | duplicateParameter (method parameter : Name)
  /-- A method name declared twice on one generator. -/
  | duplicateMethod (name : Name)
  /-- Settings that are refused. -/
  | invalidSettings (fault : SettingsFault)
  /-- A call whose arguments do not fit the signature. -/
  | arity (method : Value) (signature : String) (fault : BindFault Name)
  /-- A call that the visibility of the member forbids. -/
  | access (method : Value) (visibility : Visibility) (owner : Name)
  /-- Parameters that make no signature. -/
  | malformedSignature (fault : SignatureFault)
  /-- A word that names nothing of a type; a type is given by its name. -/
  | unknownWord (typeName word : String)
  /-- A value that cannot be hashed. -/
  | unhashable (typeName : String)
  /-- A seed that is no integer. -/
  | seedType (typeName : String)
  /-- A text that is no seed. -/
  | seedText (text : String)
  /-- A draw from an empty range. -/
  | emptyRange (low high : Int)
  /-- A choice among nothing. -/
  | emptyChoice
  /-- A draw that never meets a number of its range. -/
  | unfinishedDraw
  /-- A value without an attribute of a name. -/
  | noAttribute (typeName name : String)
  /-- A function, by its qualified name, called with arguments that it does not take. -/
  | call (function : String) (fault : CallFault)
  /-- A name of a function that is no text. -/
  | badFunctionName
  /-- Layers around each other that do not come to an end. -/
  | tooManyLayers
  /-- Any other failure of an ordinary value, in its own words. -/
  | ordinary (errorClass : ErrorClass) (text : String)
deriving Repr

namespace Error

/-- The report of a declared error. -/
def report? : Error → Option Report
  | invalidParameterKind kind => some ⟨.invalidParameterKind, [("kind", kind)]⟩
  | invalidIdentifier name role => some ⟨.invalidIdentifier, [("name", name), ("role", .str role)]⟩
  | invalidVisibility visibility => some ⟨.invalidVisibility, [("visibility", visibility)]⟩
  | parameterOrder method parameter rule =>
    some ⟨.parameterOrder, [("method", method.toValue), ("parameter", parameter.toValue),
      ("reason", .str rule.reason)]⟩
  | duplicateParameter method parameter =>
    some ⟨.duplicateParameter, [("method", method.toValue), ("parameter", parameter.toValue)]⟩
  | duplicateMethod name => some ⟨.duplicateMethod, [("name", name.toValue)]⟩
  | invalidSettings fault =>
    some ⟨.invalidConfig, [("field", .str fault.field), ("reason", .str fault.reason)]⟩
  | arity method signature fault =>
    some ⟨.arity, [("method", method), ("signature", .str signature),
      ("reason", .str fault.reason)]⟩
  | access method visibility owner =>
    some ⟨.access, [("method", method), ("visibility", .str visibility.accessWord),
      ("owner", owner.toValue)]⟩
  | _ => none

/-- The class of an error that is not a declared one, and its wording. -/
def ordinary? : Error → Option (ErrorClass × String)
  | malformedSignature fault => some (.badValue, fault.message)
  | unknownWord typeName word =>
    some (.badValue, (Value.str word).literal ++ " is not a valid " ++ typeName)
  | unhashable typeName => some (.badType, "unhashable type: '" ++ Text.clip 200 typeName ++ "'")
  | seedType typeName => some (.badType, "seed must be int, got " ++ typeName)
  | seedText text =>
    some (.usage, "code_generator_seed must be an integer, got " ++ (Value.str text).literal)
  | emptyRange low high =>
    some (.badValue, "empty range for randrange() (" ++ (Value.int low).literal ++ ", "
      ++ (Value.int (high + 1)).literal ++ ", " ++ (Value.int (high + 1 - low)).literal ++ ")")
  | emptyChoice => some (.badValue, "Upper bound must be positive.")
  | unfinishedDraw => some (.badValue, "no number of the range was drawn")
  | noAttribute typeName name =>
    some (.noAttribute,
      "'" ++ Text.clip 50 typeName ++ "' object has no attribute '" ++ name ++ "'")
  | call function fault => some (.badType, function ++ "() " ++ fault.message)
  | badFunctionName => some (.badType, "__name__ must be set to a string object")
  | tooManyLayers => some (.recursion, "maximum recursion depth exceeded in __instancecheck__")
  | ordinary errorClass text => some (errorClass, text)
  | _ => none

/-- The wording of an error. -/
def message (e : Error) : String :=
  match e.report? with
  | some r => r.message
  | none =>
    match e.ordinary? with
    | some (_, text) => text
    | none => ""

/-- Whether an error is an instance of a class of errors: a declared error is one of the classes
that its kind stands under. -/
def isA (e : Error) (c : ErrorClass) : Bool :=
  match e.report? with
  | some r => r.kind.base == c
  | none => (e.ordinary?.map (·.1)) == some c

/-- Whether an error says that there is no attribute of a name. -/
def isMissing (e : Error) : Bool :=
  match e.report? with
  | some r => r.kind.base.isUnder .noAttribute
  | none => (e.ordinary?.map (·.1)).any fun c => c.isUnder .noAttribute

/-- The error that a value cannot be written. -/
def unwritable : Error :=
  .ordinary .badValue (Number.tooManyDigits "")

/-- An error whose words show a value, or the error that the value cannot be written. -/
def showing (v : Value) (e : Error) : Error :=
  if v.isWritable then e else unwritable

theorem showing_of_text {v : Value} {text : String} (h : v.text? = some text) (e : Error) :
    showing v e = e := by
  cases v with
  | str _ | symbol _ => rfl
  | _ => cases h

/-- The failure that an error was raised for. -/
def cause? : Error → Option Error
  | arity _ _ fault => some (.ordinary .badType fault.reason)
  | _ => none

end Error

/-- What a value is written as, or the error that it cannot be written. -/
def Value.writing (v : Value) (text : String) : Except Error String :=
  if v.isWritable then .ok text else .error .unwritable

end StubClass
