set_option autoImplicit false

/-! # Resolution order

A class with several bases looks attributes up along one list of its ancestors. The list is merged
from the lists of the bases and the list of the bases themselves: the next one is the first head
that stands in no other list behind the head. When every head does, the bases have no common order.
What is found along the list is weighed against what an object keeps itself (`preferred?`). -/

namespace StubClass

variable {α : Type} [BEq α]

/-- The first head that no list holds behind its own head. -/
def nextInOrder? (lists : List (List α)) : Option α :=
  (lists.filterMap List.head?).find? fun x => lists.all fun l => !l.tail.contains x

/-- The list without a certain head. -/
def dropHead (x : α) (l : List α) : List α :=
  if l.head? == some x then l.tail else l

/-- Merges lists of at most `size` elements together; fails with the heads that block one another.
-/
def mergeOrders : (size : Nat) → List (List α) → Except (List α) (List α)
  | 0, _ => .ok []
  | size + 1, lists =>
    if lists.all List.isEmpty then .ok []
    else
      match nextInOrder? lists with
      | none => .error (lists.filterMap List.head?).eraseDups
      | some x => (mergeOrders size (lists.map (dropHead x))).map (x :: ·)

/-- The order of a class after itself, from its bases and their orders. -/
def ancestorOrder (orders : α → List α) (bases : List α) : Except (List α) (List α) :=
  let lists := bases.map orders ++ [bases]
  mergeOrders lists.flatten.length lists

/-! ## Attributes -/

/-- Which of two decides over an attribute: what an object keeps itself, or what its class holds.
The latter does when nothing else is there, or when it is one that always does. -/
def preferred? {κ η : Type} (decides : η → Bool) (own : Option κ) (held : Option η) :
    Option (κ ⊕ η) :=
  match held.filter decides, own, held with
  | some held, _, _ => some (.inr held)
  | none, some own, _ => some (.inl own)
  | none, none, some held => some (.inr held)
  | none, none, none => none

end StubClass
