import StubClass.Error

set_option autoImplicit false

/-! # The steps of checking settings

Settings are checked by tests, one after another: that of the name of the classes, those of the
types of the numbers and those of their sizes. The first test that is not passed is told, by the
field that it is about and in words that show what was given. Objects are asked what they are and
how they compare, and the questions may have effects of their own. -/

namespace StubClass

/-! ## Tests -/

/-- A test of what is given for a field of settings. -/
structure FieldTest (m : Type → Type) (α : Type) where
  field : String
  given : m α
  isPassed : α → m Bool
  /-- What is said when it is not passed. -/
  reason : α → m String

/-- The first of some tests that is not passed, as a fault. -/
def firstFailed {m : Type → Type} [Monad m] {α : Type} :
    List (FieldTest m α) → m (Option SettingsFault)
  | [] => return none
  | t :: ts => do
    let x ← t.given
    if ← t.isPassed x then firstFailed ts else return some ⟨t.field, ← t.reason x⟩

/-! ## Settings -/

/-- What checking settings asks: `α` are the objects that are given for the fields. -/
structure SettingsCheck (m : Type → Type) (α : Type) where
  className : m α
  number : NumberField → m α
  isIdentifier : α → m Bool
  isInteger : α → m Bool
  isTruthValue : α → m Bool
  isBelowOne : α → m Bool
  isBelow : α → α → m Bool
  /-- The name of the type of an object. -/
  typeName : α → m String
  literal : α → m String
  plain : α → m String

namespace SettingsCheck

variable {m : Type → Type} [Monad m] {α : Type} (s : SettingsCheck m α)

/-- The class name has to be an identifier. -/
def nameTest : FieldTest m α where
  field := "class_name"
  given := s.className
  isPassed := s.isIdentifier
  reason _ := do return "must be an identifier, got " ++ (← s.literal (← s.className))

/-- A number field has to be an integer and no truth value. -/
def typeTest (field : NumberField) : FieldTest m α where
  field := field.name
  given := s.number field
  isPassed x := do if ← s.isInteger x then return !(← s.isTruthValue x) else return false
  reason x := do return "must be int, got " ++ (← s.typeName x)

/-- A number field must not be below one. -/
def positiveTest (field : NumberField) : FieldTest m α where
  field := field.name
  given := s.number field
  isPassed x := do return !(← s.isBelowOne x)
  reason _ := do return "must be >= 1, got " ++ (← s.plain (← s.number field))

/-- The greatest integer must not be below the least one. -/
def rangeTest : FieldTest m α where
  field := NumberField.integerMax.name
  given := s.number .integerMax
  isPassed x := do return !(← s.isBelow x (← s.number .integerMin))
  reason _ := do
    let minimum ← s.plain (← s.number .integerMin)
    return "must be >= integer_min (" ++ minimum ++ "), got "
      ++ (← s.plain (← s.number .integerMax))

/-- The tests of settings, in their order. -/
def tests : List (FieldTest m α) :=
  [s.nameTest, s.typeTest .integerMin, s.typeTest .integerMax, s.typeTest .stringLength,
    s.positiveTest .integerMin, s.rangeTest, s.positiveTest .stringLength]

/-- What is wrong first, if anything is. -/
def fault? : m (Option SettingsFault) :=
  firstFailed s.tests

end SettingsCheck

/-! ## Answers without effects -/

namespace FieldTest

variable {α : Type}

/-- Whether a test is passed by what is given. -/
def passed (t : FieldTest (Except Error) α) : Except Error Bool := do
  t.isPassed (← t.given)

/-- What is said of what is given. -/
def told (t : FieldTest (Except Error) α) : Except Error String := do
  t.reason (← t.given)

variable {ts : List (FieldTest (Except Error) α)}

theorem firstFailed_cons (t : FieldTest (Except Error) α) (ts : List (FieldTest (Except Error) α)) :
    firstFailed (t :: ts) =
      match t.passed with
      | .error e => .error e
      | .ok true => firstFailed ts
      | .ok false => t.told.map fun reason => some ⟨t.field, reason⟩ := by
  rw [firstFailed, passed, told]
  cases t.given with
  | error e => rfl
  | ok x =>
      simp only [bind, Except.bind]
      rcases t.isPassed x with e | ⟨_ | _⟩
      · rfl
      · cases t.reason x <;> rfl
      · rfl

theorem firstFailed_eq_none_iff : firstFailed ts = .ok none ↔ ∀ t ∈ ts, t.passed = .ok true := by
  induction ts with
  | nil => simp [firstFailed, pure, Except.pure]
  | cons t ts ih =>
      rw [firstFailed_cons, List.forall_mem_cons, ← ih]
      rcases t.passed with e | ⟨_ | _⟩
      · simp
      · cases t.told <;> simp [Except.map]
      · simp

end FieldTest

end StubClass
