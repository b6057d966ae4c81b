set_option autoImplicit false

/-! # Kinds of parameters

A parameter is given by position or by keyword only, and is required or has a default. -/

namespace StubClass

/-- The declared kind of a parameter. -/
inductive ParameterKind where
  /-- By position, without a default. -/
  | required
  /-- By position, with a default. -/
  | optional
  /-- By keyword only, without a default. -/
  | keywordRequired
  /-- By keyword only, with a default. -/
  | keyword
deriving Repr, DecidableEq, Inhabited

namespace ParameterKind

/-- All kinds, in the order of their declaration. -/
def all : List ParameterKind :=
  [required, optional, keywordRequired, keyword]

/-- The word that stands for a kind in declarations. -/
def word : ParameterKind → String
  | required => "required"
  | optional => "optional"
  | keywordRequired => "keyword_required"
  | keyword => "keyword"

/-- The name of the kind as a constant. -/
def constant : ParameterKind → String
  | required => "REQUIRED"
  | optional => "OPTIONAL"
  | keywordRequired => "KEYWORD_REQUIRED"
  | keyword => "KEYWORD"

/-- The kind that a word stands for. -/
def ofWord? (word : String) : Option ParameterKind :=
  all.find? fun k => k.word == word

/-- Whether the parameter is given by keyword only. -/
def isKeyword : ParameterKind → Bool
  | keywordRequired | keyword => true
  | required | optional => false

/-- Whether the default of the parameter is applied. -/
def hasDefault : ParameterKind → Bool
  | optional | keyword => true
  | required | keywordRequired => false

/-- The kind with the same place that has no default. -/
def withoutDefault : ParameterKind → ParameterKind
  | optional => required
  | keyword => keywordRequired
  | k => k

theorem ofWord?_word (k : ParameterKind) : ofWord? k.word = some k := by
  cases k <;> decide

end ParameterKind

end StubClass
