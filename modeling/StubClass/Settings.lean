import StubClass.Settings.Check

set_option autoImplicit false

/-! # Settings of a generator

The settings name the classes that are built and bound what is drawn at random: integers from a
non-empty range of positive numbers, and texts of a positive length. Settings that break this do not
exist; `Settings.create` says which field is at fault. -/

namespace StubClass

/-- The settings of a generator. -/
structure Settings where
  className : Identifier
  integerMin : Int
  integerMax : Int
  stringLength : Int
  one_le_integerMin : 1 ≤ integerMin
  integerMin_le_integerMax : integerMin ≤ integerMax
  one_le_stringLength : 1 ≤ stringLength
deriving Repr, DecidableEq

namespace Settings

/-- The settings that are used when none are given. -/
def standard : Settings where
  className := ⟨.ofText "GeneratedClass", by decide +kernel⟩
  integerMin := 1
  integerMax := 1000000
  stringLength := 10
  one_le_integerMin := by decide
  integerMin_le_integerMax := by decide
  one_le_stringLength := by decide

end Settings

/-! ## Candidates -/

/-- An object that is given for a field of settings, by what its class makes it, and how it is
written, which may fail. -/
structure Candidate where
  /-- The text that it is, if its class is one of texts. -/
  name? : Option Name
  /-- The integer that it is, if its class is one of integers. -/
  integer? : Option Int
  isTruthValue : Bool
  typeName : Except Error String
  literal : Except Error String
  plain : Except Error String

namespace Candidate

/-- The identifier that a candidate is. -/
def identifier? (c : Candidate) : Option Identifier :=
  c.name?.bind Identifier.ofName?

/-- The integer that a candidate is when it is no truth value. -/
def bound? (c : Candidate) : Option Int :=
  if c.isTruthValue then none else c.integer?

/-- How candidates are checked. -/
def check (className : Candidate) (number : NumberField → Candidate) :
    SettingsCheck (Except Error) Candidate where
  className := .ok className
  number field := .ok (number field)
  isIdentifier c := .ok c.identifier?.isSome
  isInteger c := .ok c.integer?.isSome
  isTruthValue c := .ok c.isTruthValue
  isBelowOne c := .ok (c.integer?.any (· < 1))
  isBelow c d := .ok (c.integer?.any fun n => d.integer?.any (n < ·))
  typeName := typeName
  literal := literal
  plain := plain

section

variable (className : Candidate) (number : NumberField → Candidate)

theorem nameTest_passed :
    (check className number).nameTest.passed = .ok className.identifier?.isSome :=
  rfl

theorem typeTest_passed (field : NumberField) :
    ((check className number).typeTest field).passed = .ok (number field).bound?.isSome := by
  simp only [SettingsCheck.typeTest, FieldTest.passed, check, bound?, bind, Except.bind]
  cases (number field).integer? <;> cases (number field).isTruthValue <;> rfl

theorem positiveTest_passed (field : NumberField) :
    ((check className number).positiveTest field).passed =
      .ok !(number field).integer?.any (· < 1) :=
  rfl

theorem rangeTest_passed :
    (check className number).rangeTest.passed =
      .ok !(number .integerMax).integer?.any fun n => (number .integerMin).integer?.any (n < ·) :=
  rfl

end

variable {c : Candidate} {n : Int}

theorem integer?_of_bound? (h : c.bound? = some n) : c.integer? = some n := by
  unfold bound? at h
  split at h
  · cases h
  · exact h

end Candidate

/-- The integer that a value is; a truth value is one. -/
def Value.integer? : Value → Option Int
  | int n => some n
  | bool b => some (if b then 1 else 0)
  | _ => none

/-- A value as a candidate. -/
def Value.candidate (v : Value) : Candidate where
  name? := Name.ofValue? v
  integer? := v.integer?
  isTruthValue := v matches .bool _
  typeName := .ok v.typeName
  literal := v.writing v.literal
  plain := v.writing v.plain

namespace Settings

/-- The settings of four parts, if they are all there and in order. -/
def ofParts? : Option Identifier → Option Int → Option Int → Option Int → Option Settings
  | some name, some minimum, some maximum, some length =>
    if h : 1 ≤ minimum ∧ minimum ≤ maximum ∧ 1 ≤ length then
      some ⟨name, minimum, maximum, length, h.1, h.2.1, h.2.2⟩
    else none
  | _, _, _, _ => none

variable {className : Candidate} {number : NumberField → Candidate}

/-- The settings of the parts of candidates. -/
def ofCandidates? (className : Candidate) (number : NumberField → Candidate) : Option Settings :=
  ofParts? className.identifier? (number .integerMin).bound? (number .integerMax).bound?
    (number .stringLength).bound?

/-- Nothing is wrong with candidates just when their parts are there and in order. -/
theorem fault?_eq_none_iff :
    (Candidate.check className number).fault? = .ok none ↔
      (∃ name, className.identifier? = some name) ∧ ∃ minimum maximum length,
        (number .integerMin).bound? = some minimum ∧ (number .integerMax).bound? = some maximum ∧
          (number .stringLength).bound? = some length ∧
          1 ≤ minimum ∧ minimum ≤ maximum ∧ 1 ≤ length := by
  rw [SettingsCheck.fault?, FieldTest.firstFailed_eq_none_iff]
  simp only [SettingsCheck.tests, List.forall_mem_cons, Candidate.nameTest_passed,
    Candidate.typeTest_passed, Candidate.positiveTest_passed, Candidate.rangeTest_passed,
    Except.ok.injEq, Option.isSome_iff_exists]
  constructor
  · rintro ⟨hname, ⟨minimum, hminimum⟩, ⟨maximum, hmaximum⟩, ⟨length, hlength⟩, hone, hrange,
      hpositive, -⟩
    refine ⟨hname, minimum, maximum, length, hminimum, hmaximum, hlength, ?_⟩
    rw [Candidate.integer?_of_bound? hminimum] at hone hrange
    rw [Candidate.integer?_of_bound? hmaximum] at hrange
    rw [Candidate.integer?_of_bound? hlength] at hpositive
    simpa using And.intro hone (And.intro hrange hpositive)
  · rintro ⟨hname, minimum, maximum, length, hminimum, hmaximum, hlength, horder⟩
    rw [Candidate.integer?_of_bound? hminimum, Candidate.integer?_of_bound? hmaximum,
      Candidate.integer?_of_bound? hlength]
    exact ⟨hname, ⟨minimum, hminimum⟩, ⟨maximum, hmaximum⟩, ⟨length, hlength⟩,
      by simpa using horder⟩

/-- Where nothing is wrong with candidates there are settings. -/
theorem isSome_ofCandidates? (h : (Candidate.check className number).fault? = .ok none) :
    (ofCandidates? className number).isSome = true := by
  obtain ⟨⟨name, hname⟩, minimum, maximum, length, hminimum, hmaximum, hlength, horder⟩ :=
    fault?_eq_none_iff.1 h
  rw [ofCandidates?, hname, hminimum, hmaximum, hlength, ofParts?, dif_pos horder]
  rfl

/-- The settings of candidates, or the error of refusing them. -/
def ofCandidates (className : Candidate) (number : NumberField → Candidate) :
    Except Error Settings :=
  match h : (Candidate.check className number).fault? with
  | .error e => .error e
  | .ok (some fault) => .error (.invalidSettings fault)
  | .ok none => .ok ((ofCandidates? className number).get (isSome_ofCandidates? h))

/-- The settings of four values. -/
def ofValues (className integerMin integerMax stringLength : Value) : Except Error Settings :=
  ofCandidates className.candidate fun
    | .integerMin => integerMin.candidate
    | .integerMax => integerMax.candidate
    | .stringLength => stringLength.candidate

/-- Values for some of the fields of the settings. -/
structure Given where
  className : Option Value := none
  integerMin : Option Value := none
  integerMax : Option Value := none
  stringLength : Option Value := none
deriving Inhabited

/-- The settings with the given values, and the standard ones elsewhere. -/
def create (given : Given) : Except Error Settings :=
  ofValues (given.className.getD standard.className.toValue)
    (given.integerMin.getD (.int standard.integerMin))
    (given.integerMax.getD (.int standard.integerMax))
    (given.stringLength.getD (.int standard.stringLength))

/-- The literal form of the settings. -/
def literal (s : Settings) : String :=
  "GeneratorConfig(class_name=" ++ s.className.toValue.literal ++ ", integer_min="
    ++ (Value.int s.integerMin).literal ++ ", integer_max=" ++ (Value.int s.integerMax).literal
    ++ ", string_length=" ++ (Value.int s.stringLength).literal ++ ")"

end Settings

end StubClass
