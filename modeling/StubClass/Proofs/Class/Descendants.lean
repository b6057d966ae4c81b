import Mathlib.Data.List.Nodup
import Mathlib.Logic.Relation
import StubClass.Class.Reach
import StubClass.Outcome

set_option autoImplicit false

/-! # The descendants of a class

The list of descendants grows at its end while it is gone through. What it is like at every place is
`Listed`: it starts with the owner, has no object twice and none that is not derived from the owner,
and everything directly below the objects before the place is in it. When the place is at the end,
the list has exactly the descendants, `descendants_pure`. The questions are taken to have no effects
here, whatever effects there are. -/

namespace StubClass

variable {m : Type → Type} [Monad m] [LawfulMonad m] {α : Type} (below : α → List α)

/-- One object is directly below another one. -/
def IsBelow (c k : α) : Prop :=
  k ∈ below c

/-- What a list of descendants is like that was gone through up to a place. -/
structure Listed (owner : α) (found : List α) (place : Nat) : Prop where
  starts : found.head? = some owner
  nodup : found.Nodup
  derived : ∀ k ∈ found, Relation.ReflTransGen (IsBelow below) owner k
  complete : ∀ i < place, ∀ c, found[i]? = some c → ∀ k ∈ below c, k ∈ found
  within : place ≤ found.length

/-! ## One place further -/

theorem addUnknown_pure [BEq α] [LawfulBEq α] (found new : List α) :
    ∃ added, addUnknown (fun x xs => (pure (xs.contains x) : m Bool)) found new =
        pure (found ++ added) ∧
      (∀ k ∈ added, k ∈ new) ∧ (∀ k ∈ new, k ∈ found ++ added) ∧
        (found.Nodup → (found ++ added).Nodup) := by
  induction new generalizing found with
  | nil => exact ⟨[], by simp [addUnknown], by simp, by simp, by simp⟩
  | cons x xs ih =>
      by_cases hx : x ∈ found
      · obtain ⟨added, hrun, hnew, hall, hnodup⟩ := ih found
        refine ⟨added, ?_, fun k hk => List.mem_cons_of_mem _ (hnew k hk), ?_, hnodup⟩
        · simpa [addUnknown, hx] using hrun
        · intro k hk
          rcases List.mem_cons.1 hk with rfl | hk
          · exact List.mem_append_left _ hx
          · exact hall k hk
      · obtain ⟨added, hrun, hnew, hall, hnodup⟩ := ih (found ++ [x])
        simp only [List.append_assoc, List.singleton_append] at hrun hall hnodup
        refine ⟨x :: added, ?_, ?_, ?_, ?_⟩
        · simpa [addUnknown, hx] using hrun
        · intro k hk
          rcases List.mem_cons.1 hk with rfl | hk
          · exact List.mem_cons_self
          · exact List.mem_cons_of_mem _ (hnew k hk)
        · intro k hk
          rcases List.mem_cons.1 hk with rfl | hk
          · simp
          · exact hall k hk
        · intro hfound
          refine hnodup (List.nodup_append.2 ⟨hfound, List.nodup_singleton x, ?_⟩)
          rintro y hy _ hx' rfl
          exact hx (List.mem_singleton.1 hx' ▸ hy)

variable {below}

theorem Listed.start (owner : α) : Listed below owner [owner] 0 where
  starts := rfl
  nodup := List.nodup_singleton owner
  derived k hk := by rw [List.mem_singleton.1 hk]
  complete := by simp
  within := Nat.zero_le _

theorem Listed.next {owner c : α} {found added : List α} {place : Nat}
    (h : Listed below owner found place) (hc : found[place]? = some c)
    (hnew : ∀ k ∈ added, k ∈ below c) (hall : ∀ k ∈ below c, k ∈ found ++ added)
    (hnodup : found.Nodup → (found ++ added).Nodup) :
    Listed below owner (found ++ added) (place + 1) := by
  obtain ⟨hplace, rfl⟩ := List.getElem?_eq_some_iff.1 hc
  refine ⟨?_, hnodup h.nodup, ?_, ?_, ?_⟩
  · rw [List.head?_append, h.starts, Option.some_or]
  · intro k hk
    rcases List.mem_append.1 hk with hk | hk
    · exact h.derived k hk
    · exact (h.derived _ (List.getElem_mem hplace)).tail (hnew k hk)
  · intro i hi c' hc' k hk
    rcases Nat.lt_succ_iff_lt_or_eq.1 hi with hi | rfl
    · rw [List.getElem?_append_left (Nat.lt_trans hi hplace)] at hc'
      exact List.mem_append_left _ (h.complete i hi c' hc' k hk)
    · rw [List.getElem?_append_left hplace, hc] at hc'
      cases hc'
      exact hall k hk
  · rw [List.length_append]
    omega

/-- A list that was gone through up to its end has all descendants. -/
theorem Listed.mem_iff {owner : α} {found : List α} {place : Nat}
    (h : Listed below owner found place) (hend : found.length ≤ place) (k : α) :
    k ∈ found ↔ Relation.ReflTransGen (IsBelow below) owner k := by
  refine ⟨h.derived k, fun hk => ?_⟩
  induction hk with
  | refl => exact List.mem_of_mem_head? h.starts
  | @tail c k _ hck hc =>
      obtain ⟨i, hi, rfl⟩ := List.getElem_of_mem hc
      exact h.complete i (Nat.lt_of_lt_of_le hi hend) _ (List.getElem?_eq_getElem hi) k hck

/-! ## The whole list -/

omit [LawfulMonad m] in
/-- At the end of the list there is nothing more to do, with or without fuel. -/
theorem descendantsFrom_of_length_le {below : α → m (List α)} {isAmong : α → List α → m Bool}
    {found : List α} {place : Nat} (h : found.length ≤ place) (fuel : Nat) :
    descendantsFrom below isAmong fuel found place = pure found := by
  cases fuel with
  | zero => rfl
  | succ fuel => rw [descendantsFrom, List.getElem?_eq_none_iff.2 h]

/-- Going on from a place comes to the end of the list: no list without repetition is longer than
`bound`, so with fuel for so many places there is fuel left at the end, and more of it changes
nothing. What going through one more object keeps is true at the end. -/
theorem descendantsFrom_keeps [BEq α] [LawfulBEq α] {bound : Nat}
    (hbound : ∀ l : List α, l.Nodup → l.length ≤ bound) {owner : α} {P : List α → Nat → Prop}
    (hnext : ∀ found added place c, Listed below owner found place → found[place]? = some c →
      (∀ k ∈ added, k ∈ below c) → (found ++ added).Nodup → P found place →
      P (found ++ added) (place + 1))
    {found : List α} {place : Nat} (h : Listed below owner found place) (hP : P found place) :
    ∃ all, (∀ fuel, bound < fuel + place → descendantsFrom (fun c => (pure (below c) : m (List α)))
        (fun x xs => pure (xs.contains x)) fuel found place = pure all) ∧
      Listed below owner all all.length ∧ P all all.length := by
  induction hleft : bound - place generalizing found place with
  | zero =>
      -- a place at `bound` is the end, since the list is no longer
      obtain rfl : place = found.length := by
        have := hbound found h.nodup
        have := h.within
        omega
      exact ⟨found, fun fuel _ => descendantsFrom_of_length_le (Nat.le_refl _) fuel, h, hP⟩
  | succ left ih =>
      cases hc : found[place]? with
      | none =>
          obtain rfl := Nat.le_antisymm h.within (List.getElem?_eq_none_iff.1 hc)
          exact ⟨found, fun fuel _ => descendantsFrom_of_length_le (Nat.le_refl _) fuel, h, hP⟩
      | some c =>
          obtain ⟨added, hrun, hnew, hall, hnodup⟩ := addUnknown_pure (m := m) found (below c)
          obtain ⟨all, hruns, hlisted⟩ := ih (h.next hc hnew hall hnodup)
            (hnext found added place c h hc hnew (hnodup h.nodup) hP) (by omega)
          refine ⟨all, fun fuel hfuel => ?_, hlisted⟩
          match fuel with
          | 0 => omega
          | fuel + 1 =>
              rw [descendantsFrom, hc]
              simp only [pure_bind, hrun]
              exact hruns fuel (by omega)

/-- The descendants of an owner are listed from the owner on, each once, and all of them. -/
theorem descendants_pure [BEq α] [LawfulBEq α] {bound : Nat}
    (hbound : ∀ l : List α, l.Nodup → l.length ≤ bound) (owner : α) {fuel : Nat}
    (hfuel : bound < fuel) :
    ∃ all, descendants (fun c => (pure (below c) : m (List α)))
        (fun x xs => pure (xs.contains x)) fuel owner = pure all ∧
      Listed below owner all all.length := by
  obtain ⟨all, hruns, hlisted, -⟩ := descendantsFrom_keeps (m := m) hbound
    (P := fun _ _ => True) (fun _ _ _ _ _ _ _ _ _ => trivial) (.start owner) trivial
  exact ⟨all, hruns fuel hfuel, hlisted⟩

/-! ## Questions that may fail -/

section

variable {ε : Type} [BEq α] {asked : α → Except ε (List α)}
  {isAmong : α → List α → Except ε Bool} {P : α → Prop} {T : Prop} {E : ε → Prop}

theorem addUnknown_comesTo
    (hamong : ∀ x xs, P x → (∀ y ∈ xs, P y) →
      ComesTo (isAmong x xs) (fun known => T → known = xs.contains x) E)
    {found new : List α} (hfound : ∀ k ∈ found, P k) (hnew : ∀ k ∈ new, P k) :
    ComesTo (addUnknown isAmong found new)
      (fun next => (∀ k ∈ next, P k) ∧
        (T → addUnknown (m := Except ε) (fun x xs => pure (xs.contains x)) found new = .ok next))
      E := by
  induction new generalizing found with
  | nil => exact .inl ⟨found, rfl, hfound, fun _ => rfl⟩
  | cons x xs ih =>
      obtain ⟨hx, hxs⟩ := List.forall_mem_cons.1 hnew
      rw [addUnknown]
      refine (hamong x found hx hfound).bind fun known hknown => ?_
      have hstep (ht : T) : addUnknown (m := Except ε) (fun x xs => pure (xs.contains x)) found
          (x :: xs) = if known then addUnknown (fun x xs => pure (xs.contains x)) found xs
            else addUnknown (fun x xs => pure (xs.contains x)) (found ++ [x]) xs := by
        rw [hknown ht]
        rfl
      cases known with
      | true =>
          exact (ih hfound hxs).imp (fun next h => ⟨h.1, fun ht => (hstep ht).trans (h.2 ht)⟩)
            fun _ h => h
      | false =>
          have hmore : ∀ k ∈ found ++ [x], P k := by
            simpa [or_imp, forall_and] using ⟨hfound, hx⟩
          exact (ih hmore hxs).imp (fun next h => ⟨h.1, fun ht => (hstep ht).trans (h.2 ht)⟩)
            fun _ h => h

/-- What all that is listed has in common has all that is added to the list, unless a question fails
that comes up. Where membership is told as it is, the list is the one without such questions. -/
theorem descendantsFrom_comesTo
    (hasked : ∀ c, P c → ComesTo (asked c) (· = below c) E) (hbelow : ∀ c, P c → ∀ k ∈ below c, P k)
    (hamong : ∀ x xs, P x → (∀ y ∈ xs, P y) →
      ComesTo (isAmong x xs) (fun known => T → known = xs.contains x) E)
    (fuel : Nat) {found : List α} (hfound : ∀ k ∈ found, P k) (place : Nat) :
    ComesTo (descendantsFrom asked isAmong fuel found place)
      (fun all => (∀ k ∈ all, P k) ∧
        (T → descendantsFrom (m := Except ε) (fun c => pure (below c))
          (fun x xs => pure (xs.contains x)) fuel found place = .ok all)) E := by
  induction fuel generalizing found place with
  | zero => exact .inl ⟨found, rfl, hfound, fun _ => rfl⟩
  | succ fuel ih =>
      rw [descendantsFrom, descendantsFrom]
      cases hc : found[place]? with
      | none => exact .inl ⟨found, rfl, hfound, fun _ => rfl⟩
      | some c =>
          have hPc := hfound c (List.mem_of_getElem? hc)
          refine (hasked c hPc).bind ?_
          rintro ks rfl
          refine (addUnknown_comesTo hamong hfound (hbelow c hPc)).bind fun next hnext => ?_
          refine (ih hnext.1 (place + 1)).imp (fun all h => ⟨h.1, fun ht => ?_⟩) fun _ h => h
          rw [← h.2 ht]
          simp only [pure_bind, hnext.2 ht]
          rfl

omit [BEq α] in
/-- What is added to a list without repetitions leaves it without, where what is not told to be
among some objects is none of them. -/
theorem nodup_of_addUnknown (hamong : ∀ x xs, isAmong x xs = .ok false → x ∉ xs)
    {found new next : List α} (hfound : found.Nodup)
    (h : addUnknown isAmong found new = .ok next) : next.Nodup := by
  induction new generalizing found with
  | nil =>
      cases h
      exact hfound
  | cons x xs ih =>
      rw [addUnknown] at h
      cases hx : isAmong x found with
      | error e =>
          rw [hx] at h
          cases h
      | ok known =>
          rw [hx] at h
          cases known with
          | true => exact ih hfound h
          | false =>
              refine ih (List.nodup_append.2 ⟨hfound, List.nodup_singleton x, ?_⟩) h
              rintro y hy _ hx' rfl
              exact hamong x found hx (List.mem_singleton.1 hx' ▸ hy)

omit [BEq α] in
/-- More fuel than for all objects changes nothing. -/
theorem descendantsFrom_add (hamong : ∀ x xs, isAmong x xs = .ok false → x ∉ xs) {bound : Nat}
    (hbound : ∀ l : List α, l.Nodup → l.length ≤ bound) (fuel more place : Nat) {found : List α}
    (hfound : found.Nodup) (hfuel : bound ≤ fuel + place) :
    descendantsFrom asked isAmong (fuel + more) found place =
      descendantsFrom asked isAmong fuel found place := by
  induction fuel generalizing found place with
  | zero =>
      have hend : found.length ≤ place := by
        have := hbound found hfound
        omega
      rw [descendantsFrom_of_length_le hend, descendantsFrom_of_length_le hend]
  | succ fuel ih =>
      rw [Nat.succ_add, descendantsFrom, descendantsFrom]
      cases found[place]? with
      | none => rfl
      | some c =>
          simp only [bind, Except.bind]
          cases asked c with
          | error e => rfl
          | ok new =>
              simp only
              cases hnext : addUnknown isAmong found new with
              | error e => rfl
              | ok next =>
                  exact ih (place + 1) (nodup_of_addUnknown hamong hfound hnext) (by omega)

end

end StubClass
