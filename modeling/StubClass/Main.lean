import StubClass.Benchmark.Run

set_option autoImplicit false

/-! # The benchmark as a program

The benchmark run on the machine at hand: its clock, its files and its streams. -/

namespace StubClass.Benchmark

/-- The time in seconds. -/
def realClock : IO Float := do
  return (← IO.monoNanosNow).toFloat / 1000000000.0

/-- Does a piece of work on the class that is kept in a reference. -/
def performReal (subject : IO.Ref (Option Subject)) (work : Work) : IO Unit := do
  match work.run (← subject.get) with
  | .ok s => subject.set s
  | .error e => throw (IO.userError e.message)

/-- The fault behind an error number of the system. -/
def faultOfNumber (number : UInt32) : Option WriteFault :=
  [(2, .noEntry), (20, .notDirectory), (21, .isDirectory), (36, .nameTooLong)].lookup number

/-- The fault of a failed write. -/
def faultOf : IO.Error → Option WriteFault
  | .noFileOrDirectory _ number _ | .inappropriateType _ number _ | .invalidArgument _ number _
  | .resourceExhausted _ number _ => faultOfNumber number
  | _ => none

/-- Writes a file. -/
def writeReal (p : Place) (text : String) : IO (Except WriteFault Unit) := do
  if p.text.toList.contains '\x00' then return .error .nullCharacter
  try
    IO.FS.writeFile p.text text
    return .ok ()
  catch e =>
    match faultOf e with
    | some fault => return .error fault
    | none => throw e

/-- Prints a text, and tells whether that could be done. -/
def printReal (text : String) : IO Bool := do
  try
    IO.print text
    return true
  catch _ => return false

/-- The machine at hand. -/
def realSurroundings (subject : IO.Ref (Option Subject)) : Surroundings IO where
  readClock := realClock
  perform := performReal subject
  write := writeReal
  print := printReal
  complain := IO.eprint

end StubClass.Benchmark

open StubClass StubClass.Benchmark in
/-- Runs the benchmark. -/
def main (arguments : List String) : IO UInt32 := do
  let subject ← IO.mkRef none
  let ending ← (realSurroundings subject).run .early arguments
  match ending with
  | .failed fault p => IO.eprintln (fault.message p)
  | .placeless => IO.eprintln Ending.placelessMessage
  | _ => pure ()
  return ending.code.toUInt32
