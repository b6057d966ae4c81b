import StubClass.Generator.System

set_option autoImplicit false

/-! # What the benchmark measures

A generator with a few declarations is built into a class many times over, each time with a fresh
source of the same seed; and one member of such a class is called many times over. -/

namespace StubClass.Benchmark

open StubClass.Random (Source)

/-- A piece of work. -/
inductive Work where
  /-- To have the library at hand. -/
  | load
  /-- To build classes, a number of times. -/
  | build (rounds : Nat)
  /-- To make the class that is called. -/
  | prepare
  /-- To call a member, a number of times. -/
  | call (rounds : Nat)
deriving Repr, DecidableEq

/-- The class that is measured, with everything around it. -/
abbrev Subject := SystemState

namespace Work

/-- The number of rounds of work that is done in rounds. -/
def rounds? : Work → Option Nat
  | load | prepare => none
  | build rounds | call rounds => some rounds

/-- The declarations of the class that is measured. -/
def declarations : List (String × Visibility × List Verb) :=
  [("greet", .publicMember, [.parameter .required (.str "name") .null,
      .parameter .optional (.str "greeting") (.str "Hello"),
      .parameter .keywordRequired (.str "format") .null]),
    ("secret", .privateMember, [.returns (.int 42)]),
    ("internal", .protectedMember, [.parameter .required (.str "key") .null]),
    ("token", .publicClass, [.returns (.type .str), .generate (.bool true)])]

/-- The declarations as a course of work. -/
def session : GeneratorCourse :=
  declarations.foldr (fun d rest =>
    .declare (.str d.1) d.2.1 (fun place => .giveAll place d.2.2) rest.andThen) .done

/-- Makes the class that is measured. -/
def makeSubject : Except Error Subject := do
  let source ← Source.seeded (.int 0)
  let g ← Generator.define .standard session
  let start := { SystemState.ofSource source .plain with generators := [⟨g, []⟩] }
  match (SystemState.build 0).run start with
  | (.ok (), p) => return p
  | (.error e, _) => throw e

/-- Makes classes, a number of times: the last one, or the one before. -/
def makeSubjects (before : Option Subject) : Nat → Except Error (Option Subject)
  | 0 => .ok before
  | n + 1 => do makeSubjects (some (← makeSubject)) n

/-- What is there when the member that is measured is called: its class, and the code of whoever
measures. -/
def scene : Scene where
  landscape := Landscape.plain ⟨1, fun _ => { (Facet.blank : Facet (Fin 1)) with
    title := Settings.standard.className.toName }⟩
  classAt _ := (0 : Fin 1)
  receiver := (0 : Fin 1)
  caller := .mk "main" []

/-- The place of the member that is measured. -/
def place? (p : Subject) : Option Nat := do
  let c ← p.registry.classes[0]?
  match c.own.held? (.ofText "greet") with
  | some (.member place) => some place
  | _ => none

/-- Calls the member that is measured, a number of times. -/
def callSubject (p : Subject) : Nat → Except Error Subject
  | 0 => .ok p
  | n + 1 =>
    match place? p with
    | none => .error (.noAttribute Settings.standard.className.text "greet")
    | some place =>
      match (SystemState.call place (.call scene)
          ⟨[.str "World"], [(.ofText "format", .str "json")]⟩).run p with
      | (.error e, _) => .error e
      | (.ok _, p) => callSubject p n

/-- Does a piece of work on the class that was made last. -/
def run (last : Option Subject) : Work → Except Error (Option Subject)
  | load => .ok last
  | build rounds => makeSubjects last rounds
  | prepare => do return some (← makeSubject)
  | call rounds =>
    match last with
    | none => .ok none
    | some s => some <$> callSubject s rounds

end Work

end StubClass.Benchmark
