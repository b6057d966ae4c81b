import StubClass.Benchmark.CommandLine
import StubClass.Benchmark.Place
import StubClass.Benchmark.Report
import StubClass.Benchmark.Work

set_option autoImplicit false

/-! # A run of the benchmark

The benchmark reads a clock, does work, writes a file and prints. It gets these abilities from its
surroundings, so that a run is the same program on a real machine and on a modelled one. A refused
command line and the help end a run before any of it; and nothing is printed of results that could
not be written. Results that were written stay so when they cannot be printed. -/

namespace StubClass.Benchmark

/-- What the benchmark needs of its surroundings. -/
structure Surroundings (m : Type → Type) where
  /-- The time, in seconds from some start. -/
  readClock : m Float
  perform : Work → m Unit
  write : Place → String → m (Except WriteFault Unit)
  /-- Prints a text, and tells whether that could be done. -/
  print : String → m Bool
  complain : String → m Unit

/-- How a run ends. -/
inductive Ending where
  | finished
  | refused
  /-- The results could not be written. -/
  | failed (fault : WriteFault) (place : Place)
  /-- There was no place to write the results to. -/
  | placeless
  /-- The results were written but could not be printed. -/
  | unprinted
deriving Repr, DecidableEq

/-- The exit code of an ending. -/
def Ending.code : Ending → Nat
  | finished => 0
  | refused => 2
  | failed _ _ | placeless | unprinted => 1

/-- What is told when there is no place to write the results to. -/
def Ending.placelessMessage : String :=
  "'list' object has no attribute 'write_text'"

/-- The lines that are printed of results that were written to a place. -/
def report (p : Place) (ms : List Measurement) : List String :=
  ("Benchmark results written to " ++ p.text ++ "\n") :: ms.map fun x => x.line ++ "\n"

/-- Where results go when no place is given. -/
def standardOutput : String := "benchmark-results.json"

variable {m : Type → Type} [Monad m]

namespace Surroundings

/-- Measures a piece of work. -/
def measure (s : Surroundings m) (name : String) (work : Work) : m Measurement := do
  let start ← s.readClock
  s.perform work
  let stop ← s.readClock
  return ⟨name, stop - start⟩

/-- Makes all measurements. -/
def measureAll (s : Surroundings m) : m (List Measurement) := do
  let load ← s.measure "Import Time" .load
  let build ← s.measure "Declare and Build (1k classes)" (.build 1000)
  s.perform .prepare
  let call ← s.measure "Stub Call (100k calls)" (.call 100000)
  return [load, build, call]

/-- Prints texts one after another, up to the first that cannot be printed. -/
def printAll (s : Surroundings m) : List String → m Bool
  | [] => return true
  | text :: texts => do
    if ← s.print text then s.printAll texts else return false

/-- Measures, writes the results to a place and prints them. -/
def measureTo (s : Surroundings m) (p : Place) : m Ending := do
  let ms ← s.measureAll
  match ← s.write p (fileText ms) with
  | .error fault => return .failed fault p
  | .ok () => do
    let isPrinted ← s.printAll (report p ms)
    return if isPrinted then .finished else .unprinted

/-- Runs the benchmark on a command line, as a release of the reader takes it. That the help cannot
be printed is passed over. -/
def run (s : Surroundings m) (release : Release) (arguments : List String) : m Ending :=
  match Command.read release arguments with
  | .error r => do
    s.complain r.report
    return .refused
  | .ok .help => do
    let _ ← s.print helpText
    return .finished
  | .ok (.measure .standard) => s.measureTo (.ofText standardOutput)
  | .ok (.measure (.named text)) => s.measureTo (.ofText text)
  | .ok (.measure .nowhere) => do
    let _ ← s.measureAll
    return .placeless

end Surroundings

end StubClass.Benchmark
