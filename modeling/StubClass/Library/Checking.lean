import StubClass.Library.Naming
import StubClass.Library.Record
import StubClass.Settings.Check

set_option autoImplicit false

/-! # Looking at new parameters and settings

A parameter has a known kind and a name. Settings have a name for classes, and numbers that leave
room for random values; the first thing that is wrong is told. -/

namespace StubClass

/-! ## Parameters -/

/-- The member of an enumeration that an object is or stands for, or nothing if it is none. -/
def memberFor? (t : BuiltinType) (x : Obj) : Run (Option Obj) := do
  if ← isA x t then return some x
  else catching (fun e => e.isA .badValue) (apply (.type t) [x])

/-- Looks at a new parameter. -/
def checkParameter (x : Obj) : Run Obj := do
  let kind ← take x "kind"
  match ← memberFor? .parameterKind kind with
  | none => raise .invalidParameterKind [("kind", kind)]
  | some k => do
    setPlainly x "kind" k
    requireName (← take x "name") "parameter"
    return .none

/-! ## Settings -/

/-- How the fields of an object are checked as settings. -/
def settingsCheck (x : Obj) : SettingsCheck Run Obj where
  className := take x "class_name"
  number field := take x field.name
  isIdentifier := isIdentifier
  isInteger y := isA y .int
  isTruthValue y := isA y .bool
  isBelowOne y := do compares .lt y (← newInt 1)
  isBelow := compares .lt
  typeName := typeNameIn
  literal := literalOf
  plain := inText

/-- Looks at new settings. -/
def checkSettings (x : Obj) : Run Obj := do
  match ← (settingsCheck x).fault? with
  | some fault =>
    raise .invalidConfig [("field", .word fault.field), ("reason", .word fault.reason)]
  | none => return .none

end StubClass
