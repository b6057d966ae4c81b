set_option autoImplicit false

/-! # Classes of characters given by ranges

A class of characters is a list of ranges of code points, ascending and apart. Membership is a
plain scan of the list: the lists are data of the Unicode standard, and a scan is the shortest
definition to reason about. -/

namespace StubClass.Text

/-- A class of characters: ranges of code points, both ends included. -/
abbrev Ranges := List (Nat × Nat)

/-- Whether a range of the class holds the character. -/
def Ranges.contains (ranges : Ranges) (c : Char) : Bool :=
  ranges.any fun r => r.1 ≤ c.toNat && c.toNat ≤ r.2

end StubClass.Text
