import StubClass.Benchmark.Run

set_option autoImplicit false

/-! # A modelled machine

A machine on which the benchmark can be run without measuring anything: its clock shows given values
one after another, and its storage is a value. Work takes no time on it and is only noted. Some
texts may not be printed on it. -/

namespace StubClass.Benchmark

/-- A modelled machine. -/
structure Machine where
  /-- What the clock shows, by the number of earlier readings. -/
  clock : Nat → Float
  readings : Nat
  /-- The work done, the last first. -/
  done : List Work
  storage : Storage
  /-- What is printed of a text that cannot be printed as a whole. -/
  jams : String → Option String
  printed : String
  complaints : String

namespace Machine

/-- A machine before anything is done on it. -/
def startWith (jams : String → Option String) (clock : Nat → Float) (storage : Storage) : Machine :=
  ⟨clock, 0, [], storage, jams, "", ""⟩

/-- A machine before anything is done on it, on which all texts can be printed. -/
def start (clock : Nat → Float) (storage : Storage) : Machine :=
  startWith (fun _ => none) clock storage

/-- The numbers of rounds asked for, in order. -/
def rounds (x : Machine) : List Nat :=
  x.done.reverse.filterMap Work.rounds?

/-- Reads the clock. -/
def readClock : StateM Machine Float := fun x =>
  (x.clock x.readings, { x with readings := x.readings + 1 })

/-- Writes a file. -/
def write (p : Place) (text : String) : StateM Machine (Except WriteFault Unit) := fun x =>
  match x.storage.write p text with
  | .error fault => (.error fault, x)
  | .ok storage => (.ok (), { x with storage })

/-- Prints a text. -/
def print (text : String) : StateM Machine Bool := fun x =>
  match x.jams text with
  | none => (true, { x with printed := x.printed ++ text })
  | some part => (false, { x with printed := x.printed ++ part })

/-- The machine as the surroundings of a run. -/
def surroundings : Surroundings (StateM Machine) where
  readClock := readClock
  perform work := modify fun x => { x with done := work :: x.done }
  write := write
  print := print
  complain text := modify fun x => { x with complaints := x.complaints ++ text }

/-- Runs the benchmark on a machine with a release of the reader of command lines. -/
def runWith (x : Machine) (release : Release) (arguments : List String) : Ending × Machine :=
  (surroundings.run release arguments).run x

/-- Runs the benchmark on a machine. -/
def run (x : Machine) (arguments : List String) : Ending × Machine :=
  x.runWith .early arguments

/-- The files in and below the working directory, by their names. -/
def files (x : Machine) : List (List (List Char) × String) :=
  x.storage.files.filterMap fun f =>
    if f.1.fromRoot || f.1.up != 0 then none else some (f.1.names, f.2)

end Machine

end StubClass.Benchmark
