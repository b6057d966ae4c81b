import StubClass.Class.Registry

set_option autoImplicit false

/-! # What is held under a name

Names are told apart by their texts. What is put under a name is held there from then on, and what
is held under other names stays (`held?_put`). Looking for generated members along the entries of
classes finds under a name what the first entry of that name holds (`stubMembers_find?`). -/

namespace StubClass

namespace Namespace

variable (own : Namespace) (name other : Name)

theorem held?_put (x : Held) :
    (own.put name x).held? other = if name.text = other.text then some x else own.held? other := by
  obtain ⟨entries⟩ := own
  show ((put.putIn name x entries).find? fun e => e.1.same other).map (·.2) =
    if name.text = other.text then some x else (entries.find? fun e => e.1.same other).map (·.2)
  induction entries with
  | nil =>
      rw [put.putIn, List.find?_singleton, Name.same]
      by_cases heq : name.text = other.text <;> simp [heq]
  | cons e entries ih =>
      rw [put.putIn]
      by_cases heq : name.text = other.text
      · rw [if_pos heq] at ih ⊢
        cases hsame : e.1.same name with
        | true =>
            have hother : e.1.same other = true := Name.same_right heq e.1 ▸ hsame
            simp [hother]
        | false =>
            have hother : e.1.same other = false := Name.same_right heq e.1 ▸ hsame
            simpa [hother] using ih
      · rw [if_neg heq] at ih ⊢
        cases hother : e.1.same other with
        | true => simp [Name.same_eq_false heq hother, hother]
        | false =>
            cases hsame : e.1.same name with
            | true => simp [hother]
            | false => simpa [hother] using ih

theorem held?_remove :
    (own.remove name).held? other = if name.text = other.text then none else own.held? other := by
  unfold remove held?
  rw [List.find?_filter]
  by_cases heq : name.text = other.text
  · rw [if_pos heq, Option.map_eq_none_iff, List.find?_eq_none]
    intro e _
    rw [Name.same_right heq]
    cases e.1.same other <;> simp
  · rw [if_neg heq]
    have hother :
        (fun e : Name × Held => decide ((!e.1.same name) = true ∧ e.1.same other = true)) =
          fun e => e.1.same other := by
      funext e
      cases hsame : e.1.same other with
      | false => simp
      | true => simp [Name.same_eq_false heq hsame]
    rw [hother]

/-- What is put under a name is all that can be held besides what was. -/
theorem holds_of_put {own : Namespace} {name : Name} {x : Held} {place : Nat}
    (h : (own.put name x).holds place = true) :
    own.holds place = true ∨ x.place? = some place := by
  obtain ⟨entries⟩ := own
  replace h : ((put.putIn name x entries).any fun e => e.2.place? == some place) = true := h
  show (entries.any fun e => e.2.place? == some place) = true ∨ _
  induction entries with
  | nil => simpa [put.putIn] using h
  | cons e entries ih =>
      rw [put.putIn] at h
      rw [List.any_cons, Bool.or_eq_true]
      split at h
      · rw [List.any_cons, Bool.or_eq_true, beq_iff_eq] at h
        exact h.elim .inr fun h => .inl (.inr h)
      · rw [List.any_cons, Bool.or_eq_true] at h
        rcases h with h | h
        · exact .inl (.inl h)
        · exact (ih h).imp_left .inr

theorem holds_of_remove {own : Namespace} {name : Name} {place : Nat}
    (h : (own.remove name).holds place = true) : own.holds place = true := by
  obtain ⟨e, he, hplace⟩ := List.any_eq_true.1 h
  exact List.any_eq_true.2 ⟨e, (List.mem_filter.1 he).1, hplace⟩

theorem holds_of_place? {own : Namespace} {name : Name} {place : Nat}
    (h : own.place? name = some place) : own.holds place = true := by
  obtain ⟨x, hx, hplace⟩ := Option.bind_eq_some_iff.1 h
  obtain ⟨e, he, rfl⟩ := Option.map_eq_some_iff.1 hx
  unfold holds
  rw [List.any_eq_true]
  exact ⟨e, List.mem_of_find?_eq_some he, by simp [hplace]⟩

end Namespace

namespace Registry

/-! ## Generated members -/

/-- Under a name that was not seen before there is the generated member that the first entry of the
name holds, if it holds one. -/
theorem stubMembers_find? (seen : List Name) (entries : List (Name × Held)) (name : Name) :
    ((stubMembers seen entries).find? fun e => e.1.same name).map (·.2) =
      if seen.any name.same then none
      else (entries.find? fun e => e.1.same name).bind fun e => e.2.place? := by
  induction entries generalizing seen with
  | nil => simp [stubMembers]
  | cons e entries ih =>
      rw [stubMembers, List.find?_cons]
      cases hsame : e.1.same name with
      | true =>
          -- the entry has the name, so it is seen as the name is
          have hseen : e.1.same = name.same := by
            funext n
            rw [Name.same, Name.same, (Name.same_iff _ _).1 hsame]
          rw [hseen]
          cases hany : seen.any name.same with
          | true => simp [ih, hany]
          | false =>
              have hnow : (e.1 :: seen).any name.same = true := by
                rw [List.any_cons, Name.same, ← (Name.same_iff _ _).1 hsame]
                simp
              cases hplace : e.2.place? with
              | none => simp [ih, hnow, hplace]
              | some place => simp [hsame, hplace]
      | false =>
          have hnow : (e.1 :: seen).any name.same = seen.any name.same := by
            have hne : name.same e.1 = false := by
              rw [Bool.eq_false_iff, ne_eq, Name.same_iff] at hsame ⊢
              exact fun h => hsame h.symm
            rw [List.any_cons, hne, Bool.false_or]
          split
          · exact ih seen
          · cases e.2.place? with
            | none => exact (ih _).trans (by rw [hnow])
            | some place =>
                simp only [List.find?_cons, hsame]
                exact (ih _).trans (by rw [hnow])

/-- A class alone has the generated members that it holds. -/
theorem memberOf?_singleton (r : Registry) (c : BuiltClass) (name : Name) :
    r.memberOf? [c] name = (c.own.place? name).bind fun place => r.members[place]? := by
  unfold memberOf? Namespace.place? Namespace.held?
  rw [stubMembers_find?]
  simp only [List.flatMap_singleton, List.any_nil, Bool.false_eq_true, if_false]
  cases c.own.entries.find? fun e => e.1.same name <;> rfl

end Registry

end StubClass
