import Mathlib.Data.List.Forall2
import StubClass.Settings

set_option autoImplicit false

/-! # When settings are accepted

The tests of settings are seven conditions on what is given (`Settings.conditions`), by field and in
the order in which they are looked at. Candidates are refused in the words of the first condition
that is not met (`Settings.ofCandidates_eq_error_iff`), and accepted as the settings that they make
up when all are (`Settings.ofCandidates_eq_ok_iff`). -/

namespace StubClass

/-! ## Conditions -/

/-- What has to be met by what is given for a field, and what is said when it is not. -/
structure Settings.Condition where
  field : String
  isMet : Bool
  reason : Except Error String

namespace Settings

/-- The first condition that is not met. -/
def firstUnmet? (cs : List Condition) : Option Condition :=
  cs.find? fun c => !c.isMet

/-- The conditions of settings in the order in which they are looked at: that of the name of
classes, those of the types of the numbers and those of their sizes. -/
def conditions (className : Candidate) (number : NumberField → Candidate) : List Condition :=
  let minimum := number .integerMin
  let maximum := number .integerMax
  let length := number .stringLength
  [⟨"class_name", className.identifier?.isSome,
      return "must be an identifier, got " ++ (← className.literal)⟩,
    ⟨"integer_min", minimum.bound?.isSome, return "must be int, got " ++ (← minimum.typeName)⟩,
    ⟨"integer_max", maximum.bound?.isSome, return "must be int, got " ++ (← maximum.typeName)⟩,
    ⟨"string_length", length.bound?.isSome, return "must be int, got " ++ (← length.typeName)⟩,
    ⟨"integer_min", minimum.integer?.all (1 ≤ ·),
      return "must be >= 1, got " ++ (← minimum.plain)⟩,
    ⟨"integer_max", minimum.integer?.all fun m => maximum.integer?.all (m ≤ ·),
      return "must be >= integer_min (" ++ (← minimum.plain) ++ "), got " ++ (← maximum.plain)⟩,
    ⟨"string_length", length.integer?.all (1 ≤ ·),
      return "must be >= 1, got " ++ (← length.plain)⟩]

/-- A test comes to a condition. -/
def Decides {α : Type} (t : FieldTest (Except Error) α) (c : Condition) : Prop :=
  t.field = c.field ∧ t.passed = .ok c.isMet ∧ t.told = c.reason

theorem firstFailed_eq_firstUnmet? {α : Type} {ts : List (FieldTest (Except Error) α)}
    {cs : List Condition} (h : List.Forall₂ Decides ts cs) :
    firstFailed ts =
      match firstUnmet? cs with
      | none => .ok none
      | some c => c.reason.map fun reason => some ⟨c.field, reason⟩ := by
  induction h with
  | nil => rfl
  | @cons t c ts cs hfirst hrest ih =>
      obtain ⟨hfield, hpassed, htold⟩ := hfirst
      rw [FieldTest.firstFailed_cons, hpassed, htold, hfield, firstUnmet?, List.find?_cons]
      cases c.isMet with
      | true => exact ih
      | false => rfl

variable {className : Candidate} {number : NumberField → Candidate}

theorem tests_decide :
    List.Forall₂ Decides (Candidate.check className number).tests
      (conditions className number) := by
  have hbelow (c : Candidate) : (!c.integer?.any (· < 1)) = c.integer?.all (1 ≤ ·) := by
    cases c.integer? <;>
      simp only [Option.any, Option.all, Bool.not_false, ← decide_not, Int.not_lt]
  have hrange (c d : Candidate) : (!d.integer?.any fun n => c.integer?.any (n < ·)) =
      c.integer?.all fun m => d.integer?.all (m ≤ ·) := by
    cases c.integer? <;> cases d.integer? <;>
      simp only [Option.any, Option.all, Bool.not_false, ← decide_not, Int.not_lt]
  have hpositive (field : NumberField) :
      ((Candidate.check className number).positiveTest field).passed =
        .ok ((number field).integer?.all (1 ≤ ·)) := by
    rw [Candidate.positiveTest_passed, hbelow]
  refine .cons ⟨rfl, Candidate.nameTest_passed .., rfl⟩
    (.cons ⟨rfl, Candidate.typeTest_passed .., rfl⟩
    (.cons ⟨rfl, Candidate.typeTest_passed .., rfl⟩
    (.cons ⟨rfl, Candidate.typeTest_passed .., rfl⟩
    (.cons ⟨rfl, hpositive .integerMin, rfl⟩ (.cons ⟨rfl, ?_, rfl⟩
    (.cons ⟨rfl, hpositive .stringLength, rfl⟩ .nil))))))
  rw [Candidate.rangeTest_passed, hrange]

theorem ofParts?_eq_some_iff {name? : Option Identifier} {minimum? maximum? length? : Option Int}
    {s : Settings} :
    ofParts? name? minimum? maximum? length? = some s ↔
      name? = some s.className ∧ minimum? = some s.integerMin ∧ maximum? = some s.integerMax ∧
        length? = some s.stringLength := by
  constructor
  · intro h
    unfold ofParts? at h
    split at h
    · split at h
      · cases h
        exact ⟨rfl, rfl, rfl, rfl⟩
      · cases h
    · cases h
  · rintro ⟨rfl, rfl, rfl, rfl⟩
    rw [ofParts?, dif_pos ⟨s.one_le_integerMin, s.integerMin_le_integerMax, s.one_le_stringLength⟩]

/-- What checking candidates comes to, by the first condition that is not met. -/
theorem fault?_eq :
    (Candidate.check className number).fault? =
      match firstUnmet? (conditions className number) with
      | none => .ok none
      | some c => c.reason.map fun reason => some ⟨c.field, reason⟩ :=
  firstFailed_eq_firstUnmet? tests_decide

theorem ofCandidates_of_fault {fault : SettingsFault}
    (h : (Candidate.check className number).fault? = .ok (some fault)) :
    ofCandidates className number = .error (.invalidSettings fault) := by
  unfold ofCandidates
  split <;> cases h.symm.trans ‹_›
  rfl

theorem ofCandidates_of_error {e : Error}
    (h : (Candidate.check className number).fault? = .error e) :
    ofCandidates className number = .error e := by
  unfold ofCandidates
  split <;> cases h.symm.trans ‹_›
  rfl

theorem ofCandidates_of_none (h : (Candidate.check className number).fault? = .ok none) :
    ofCandidates className number =
      .ok ((ofCandidates? className number).get (isSome_ofCandidates? h)) := by
  unfold ofCandidates
  split <;> cases h.symm.trans ‹_›
  rfl

/-- Candidates are accepted as the settings of their parts. -/
theorem ofCandidates_eq_ok_iff {s : Settings} :
    ofCandidates className number = .ok s ↔
      className.identifier? = some s.className ∧
        (number .integerMin).bound? = some s.integerMin ∧
        (number .integerMax).bound? = some s.integerMax ∧
        (number .stringLength).bound? = some s.stringLength := by
  rw [← ofParts?_eq_some_iff]
  constructor
  · intro h
    rcases hfault : (Candidate.check className number).fault? with e | ⟨_ | fault⟩
    · cases (ofCandidates_of_error hfault).symm.trans h
    · rw [ofCandidates_of_none hfault] at h
      cases h
      exact (Option.some_get _).symm
    · cases (ofCandidates_of_fault hfault).symm.trans h
  · intro h
    obtain ⟨hname, hminimum, hmaximum, hlength⟩ := ofParts?_eq_some_iff.1 h
    have hfault := fault?_eq_none_iff.2 ⟨⟨_, hname⟩, _, _, _, hminimum, hmaximum, hlength,
      s.one_le_integerMin, s.integerMin_le_integerMax, s.one_le_stringLength⟩
    rw [ofCandidates_of_none hfault]
    exact congrArg Except.ok (Option.get_of_eq_some _ h)

theorem exists_ofCandidates_iff :
    (∃ s, ofCandidates className number = .ok s) ↔
      (∃ name, className.identifier? = some name) ∧ ∃ minimum maximum length,
        (number .integerMin).bound? = some minimum ∧ (number .integerMax).bound? = some maximum ∧
          (number .stringLength).bound? = some length ∧
          1 ≤ minimum ∧ minimum ≤ maximum ∧ 1 ≤ length := by
  simp only [ofCandidates_eq_ok_iff]
  constructor
  · rintro ⟨s, hname, hminimum, hmaximum, hlength⟩
    exact ⟨⟨_, hname⟩, _, _, _, hminimum, hmaximum, hlength, s.one_le_integerMin,
      s.integerMin_le_integerMax, s.one_le_stringLength⟩
  · rintro ⟨⟨name, hname⟩, minimum, maximum, length, hminimum, hmaximum, hlength, hone, hrange,
      hpositive⟩
    exact ⟨⟨name, minimum, maximum, length, hone, hrange, hpositive⟩, hname, hminimum, hmaximum,
      hlength⟩

/-- Candidates are refused for the first condition that they do not meet. -/
theorem exists_firstUnmet?_of_error {e : Error} (h : ofCandidates className number = .error e) :
    ∃ c, firstUnmet? (conditions className number) = some c ∧
      (c.reason = .error e ∨
        ∃ reason, c.reason = .ok reason ∧ e = .invalidSettings ⟨c.field, reason⟩) := by
  have hfault : (Candidate.check className number).fault? = _ := fault?_eq
  cases hfirst : firstUnmet? (conditions className number) with
  | none =>
      rw [hfirst] at hfault
      cases (ofCandidates_of_none hfault).symm.trans h
  | some c =>
      rw [hfirst] at hfault
      dsimp only at hfault
      refine ⟨c, rfl, ?_⟩
      cases hreason : c.reason with
      | error e' =>
          rw [hreason] at hfault
          cases (ofCandidates_of_error hfault).symm.trans h
          exact .inl rfl
      | ok reason =>
          rw [hreason] at hfault
          cases (ofCandidates_of_fault hfault).symm.trans h
          exact .inr ⟨reason, rfl, rfl⟩

end Settings

end StubClass
