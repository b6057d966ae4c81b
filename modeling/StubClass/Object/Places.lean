set_option autoImplicit false

/-! # Places in a dictionary

Each entry of a dictionary has a place, and entries are gone through by their places. A new entry
comes behind all places that were ever used; one that is taken out leaves its place empty. When no
room is left the entries move together, and there is room for more than there are. -/

namespace StubClass

/-- The places of the entries of a dictionary. -/
structure Places where
  /-- The place of each entry. -/
  taken : List Nat := []
  /-- The first place that was not used. -/
  next : Nat := 0
  /-- How many entries can still be put in. -/
  room : Nat := 0
deriving Inhabited

namespace Places

/-- How many entries there is room for when entries have moved together, so many of them. -/
def roomAfter (count : Nat) : Nat :=
  let least := ((3 * count ||| 8) - 1) ||| 7
  let size := 1 <<< (least.log2 + 1)
  2 * size / 3 - count

/-- The places when no room is left and entries have moved together. -/
def withRoom (p : Places) : Places :=
  if p.room == 0 then
    let n := p.taken.length
    ⟨List.range n, n, roomAfter n⟩
  else p

/-- The places with one more entry. -/
def push (p : Places) : Places :=
  let p := p.withRoom
  ⟨p.taken ++ [p.next], p.next + 1, p.room - 1⟩

/-- The places without the entry of a number. -/
def erase (p : Places) (index : Nat) : Places :=
  { p with taken := p.taken.eraseIdx index }

/-- The places when those behind the last entry count as not used. -/
def trimmed (p : Places) (last : Nat) : Places :=
  { p with next := last }

/-- The places of so many entries that came one after another. -/
def ofCount (n : Nat) : Places :=
  n.fold (fun _ _ p => p.push) {}

end Places

end StubClass
