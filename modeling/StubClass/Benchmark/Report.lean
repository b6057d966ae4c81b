import StubClass.Value.Text

set_option autoImplicit false

/-! # Results of the benchmark

The results are records of a name and a number of seconds. A file holds them as an array of objects,
indented by two, with numbers in natural notation; on paper every record has a line, with four
places after the point. -/

namespace StubClass.Benchmark

/-- A measured time. -/
structure Measurement where
  name : String
  seconds : Float

/-- The unit of all measurements. -/
def unit : String := "seconds"

/-- A number in a file. What is no finite number has a word of its own there. -/
def fileNumber (x : Float) : String :=
  match Number.read x with
  | .notANumber => "NaN"
  | .infinite true => "-Infinity"
  | .infinite false => "Infinity"
  | .finite _ _ => Number.floatText x

namespace Measurement

/-- A field of an object in a file. -/
def field (name value : String) : String :=
  "    \"" ++ name ++ "\": " ++ value

/-- A measurement in a file. -/
def object (m : Measurement) : String :=
  "  \x7b\n" ++ field "name" ("\"" ++ m.name ++ "\"") ++ ",\n"
    ++ field "unit" ("\"" ++ unit ++ "\"") ++ ",\n"
    ++ field "value" (fileNumber m.seconds) ++ "\n  \x7d"

/-- A measurement on paper. -/
def line (m : Measurement) : String :=
  "  " ++ m.name ++ ": " ++ Number.fixedText 4 m.seconds ++ " " ++ unit

end Measurement

/-- Measurements in a file. -/
def fileText (ms : List Measurement) : String :=
  "[\n" ++ String.intercalate ",\n" (ms.map Measurement.object) ++ "\n]"

end StubClass.Benchmark
