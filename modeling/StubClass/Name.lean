import StubClass.Text.Identifier
import StubClass.Value

set_option autoImplicit false

/-! # Names

A name is a text, plain or marked as a symbol. The mark shows when the name is written in literal
form; for telling names apart only the text counts. An identifier is a name whose text has the form
of one, so a parameter or a method that exists has a valid name by its type. -/

namespace StubClass

/-- A name. -/
structure Name where
  text : String
  isSymbol : Bool
deriving Repr, DecidableEq, Inhabited

namespace Name

/-- The plain name of a text. -/
def ofText (text : String) : Name :=
  ⟨text, false⟩

/-- The name as a value. -/
def toValue (n : Name) : Value :=
  if n.isSymbol then .symbol n.text else .str n.text

/-- The name that a value is. -/
def ofValue? : Value → Option Name
  | .str text => some ⟨text, false⟩
  | .symbol text => some ⟨text, true⟩
  | _ => none

/-- Whether two names are the same: the mark plays no part. -/
def same (a b : Name) : Bool :=
  a.text == b.text

theorem same_iff (a b : Name) : a.same b = true ↔ a.text = b.text := by
  simp [same]

/-- What is the same as one of two different names is not the same as the other one. -/
theorem same_eq_false {a b : Name} (h : a.text ≠ b.text) {n : Name} (hn : n.same b = true) :
    n.same a = false := by
  rw [Bool.eq_false_iff, ne_eq, same_iff, (same_iff _ _).1 hn]
  exact h.symm

/-- For being the same as a name its text counts. -/
theorem same_right {a b : Name} (h : a.text = b.text) (n : Name) : n.same a = n.same b := by
  rw [same, same, h]

theorem text?_toValue (n : Name) : n.toValue.text? = some n.text := by
  obtain ⟨text, isSymbol⟩ := n
  cases isSymbol <;> rfl

theorem text?_of_ofValue? {v : Value} {n : Name} (h : ofValue? v = some n) :
    v.text? = some n.text := by
  cases v with
  | str text => cases h; rfl
  | symbol text => cases h; rfl
  | _ => cases h

theorem ofValue?_toValue (n : Name) : ofValue? n.toValue = some n := by
  obtain ⟨text, isSymbol⟩ := n
  cases isSymbol <;> rfl

end Name

/-- A name that is an identifier. -/
structure Identifier extends Name where
  valid : Text.isIdentifier text = true
deriving Repr, DecidableEq

namespace Identifier

/-- The identifier that a name is. -/
def ofName? (n : Name) : Option Identifier :=
  if h : Text.isIdentifier n.text = true then some ⟨n, h⟩ else none

/-- The identifier that a value is. -/
def ofValue? (v : Value) : Option Identifier :=
  (Name.ofValue? v).bind ofName?

theorem ofName?_eq_some_iff (n : Name) (i : Identifier) : ofName? n = some i ↔ n = i.toName := by
  obtain ⟨m, h⟩ := i
  unfold ofName?
  constructor
  · intro hn
    split at hn
    · cases hn
      rfl
    · cases hn
  · rintro rfl
    exact dif_pos h

theorem ofValue?_toValue (i : Identifier) : ofValue? i.toValue = some i := by
  rw [ofValue?, Name.ofValue?_toValue]
  exact (ofName?_eq_some_iff _ i).2 rfl

theorem text?_of_ofValue? {v : Value} {i : Identifier} (h : ofValue? v = some i) :
    v.text? = some i.text := by
  obtain ⟨n, hn, hi⟩ := Option.bind_eq_some_iff.1 h
  rw [Name.text?_of_ofValue? hn, (ofName?_eq_some_iff n i).1 hi]

/-- Whether the identifier starts and ends with two underscores. -/
def isReserved (i : Identifier) : Bool :=
  "__".toList.isPrefixOf i.text.toList && "__".toList.isSuffixOf i.text.toList

end Identifier

/-- Whether a value is an identifier. -/
def Value.isIdentifier (v : Value) : Bool :=
  match v.text? with
  | some text => Text.isIdentifier text
  | none => false

theorem Value.isIdentifier_iff (v : Value) :
    v.isIdentifier = true ↔ ∃ i, Identifier.ofValue? v = some i := by
  have hname (n : Name) :
      Text.isIdentifier n.text = true ↔ ∃ i, Identifier.ofName? n = some i := by
    unfold Identifier.ofName?
    split <;> simp_all
  cases v with
  | str text => exact hname ⟨text, false⟩
  | symbol text => exact hname ⟨text, true⟩
  | _ => simp [Value.isIdentifier, Identifier.ofValue?, Value.text?, Name.ofValue?]

end StubClass
