import Mathlib.Data.Fintype.Card
import Mathlib.Logic.Relation
import StubClass.Class.Landscape
import StubClass.Outcome

set_option autoImplicit false

/-! # The code behind a member

`Landscape.IsBehind` says which code is behind an object without saying how it is found: one peels
layers until there is none, follows what is wrapped, takes the code, and descends into it. The
search does so with two bounds and a list of what it has seen, and ends where an object raises an
error. Since no list of objects without repetition is longer than the landscape is large, the bounds
are never met unless layers hold each other in a circle (`RaisingLandscape.codeBehind_findsOr`). -/

namespace StubClass

open Relation

/-! ## Finding -/

/-- A search comes to an end and finds exactly what it should. -/
def Finds {κ : Type} (search : Except Error (List κ)) (P : κ → Prop) : Prop :=
  ∃ found, search = .ok found ∧ ∀ k, k ∈ found ↔ P k

theorem Finds.congr {κ : Type} {search : Except Error (List κ)} {P Q : κ → Prop}
    (h : Finds search P) (hPQ : ∀ k, P k ↔ Q k) : Finds search Q := by
  obtain ⟨found, hrun, hfound⟩ := h
  exact ⟨found, hrun, fun k => (hfound k).trans (hPQ k)⟩

/-- A search finds exactly what it should, or ends in an error of a certain sort. -/
def FindsOr {κ : Type} (search : Except Error (List κ)) (P : κ → Prop) (E : Error → Prop) : Prop :=
  ComesTo search (fun found => ∀ k, k ∈ found ↔ P k) E

theorem FindsOr.imp {κ : Type} {search : Except Error (List κ)} {P Q : κ → Prop}
    {E F : Error → Prop} (h : FindsOr search P E) (hPQ : ∀ k, P k ↔ Q k) (hEF : ∀ e, E e → F e) :
    FindsOr search Q F :=
  ComesTo.imp h (fun _ hfound k => (hfound k).trans (hPQ k)) hEF

/-- Where there is no error of the sort, everything is found. -/
theorem FindsOr.finds {κ : Type} {search : Except Error (List κ)} {P : κ → Prop}
    {E : Error → Prop} (h : FindsOr search P E) (hE : ∀ e, ¬ E e) : Finds search P :=
  Or.resolve_right h fun ⟨e, _, he⟩ => hE e he

section Collect

variable {β κ : Type} {find : β → Except Error (List κ)} {xs : List β}

theorem collect_cons (find : β → Except Error (List κ)) (x : β) (xs : List β) :
    collect find (x :: xs) =
      match find x, collect find xs with
      | .error e, _ => .error e
      | .ok _, .error e => .error e
      | .ok here, .ok rest => .ok (here ++ rest) := by
  rw [collect]
  cases find x with
  | error e => rfl
  | ok here => cases collect find xs <;> rfl

/-- Searches one after another find everything, or end in the error of one of them. -/
theorem collect_findsOr {P : β → κ → Prop} {E : β → Error → Prop}
    (h : ∀ x ∈ xs, FindsOr (find x) (P x) (E x)) :
    FindsOr (collect find xs) (fun k => ∃ x ∈ xs, P x k) fun e => ∃ x ∈ xs, E x e := by
  induction xs with
  | nil => exact .inl ⟨[], rfl, by simp⟩
  | cons x xs ih =>
      simp only [List.exists_mem_cons_iff]
      rcases h x List.mem_cons_self with ⟨here, hhere, hx⟩ | ⟨e, herror, he⟩
      · rcases ih fun y hy => h y (List.mem_cons_of_mem _ hy) with
          ⟨rest, hrest, hxs⟩ | ⟨e, herror, he⟩
        · refine .inl ⟨here ++ rest, by rw [collect_cons, hhere, hrest], fun k => ?_⟩
          rw [List.mem_append, hx, hxs]
        · exact .inr ⟨e, by rw [collect_cons, hhere, herror], .inr he⟩
      · exact .inr ⟨e, by rw [collect_cons, herror], .inl he⟩

theorem collect_finds {P : β → κ → Prop} (h : ∀ x ∈ xs, Finds (find x) (P x)) :
    Finds (collect find xs) fun k => ∃ x ∈ xs, P x k :=
  (collect_findsOr (E := fun _ _ => False) fun x hx => .inl (h x hx)).finds (by simp)

end Collect

/-! ## Nested code -/

namespace Code

/-- Some code is among the constants of other code. -/
def Contains (k l : Code) : Prop :=
  l ∈ k.nested

theorem count_pos (k : Code) : 0 < k.count := by
  obtain ⟨text, ks⟩ := k
  exact Nat.succ_pos _

theorem count_le_countAll {k : Code} {ks : List Code} (h : k ∈ ks) :
    k.count ≤ count.countAll ks := by
  induction ks with
  | nil => cases h
  | cons l ks ih =>
      rw [count.countAll]
      rcases List.mem_cons.1 h with rfl | h
      · exact Nat.le_add_right _ _
      · exact Nat.le_trans (ih h) (Nat.le_add_left _ _)

theorem count_lt_of_contains {k l : Code} (h : k.Contains l) : l.count < k.count := by
  obtain ⟨text, ks⟩ := k
  rw [count]
  exact Nat.lt_succ_of_le (count_le_countAll h)

end Code

namespace Landscape

variable (L : Landscape)

/-! ## Relations -/

/-- An object holds another one as a layer. -/
def Holds (x y : Fin L.size) : Prop :=
  ∃ layer, (L.facet x).layer? = some layer ∧ y ∈ layer.held

instance (x y : Fin L.size) : Decidable (L.Holds x y) :=
  match h : (L.facet x).layer? with
  | none => isFalse fun ⟨layer, hlayer, _⟩ => by simp [h] at hlayer
  | some layer => decidable_of_iff (y ∈ layer.held) (by simp [Holds, h])

/-- An object wraps another one. -/
def Wraps (x y : Fin L.size) : Prop :=
  (L.facet x).wrapped? = some y

/-- Some code is the code of an object, or nested in it. -/
def HasCode (x : Fin L.size) (k : Code) : Prop :=
  ∃ c, (L.facet x).code? = some c ∧ ReflTransGen Code.Contains c k

/-- Some code is behind an object: behind its layers, and then behind what is wrapped there. -/
def IsBehind (x : Fin L.size) (k : Code) : Prop :=
  ∃ y z, ReflTransGen L.Holds x y ∧ (L.facet y).layer? = none ∧ ReflTransGen L.Wraps y z ∧
    L.HasCode z k

theorem count_le_codeCount {x : Fin L.size} {c : Code} (h : (L.facet x).code? = some c) :
    c.count ≤ L.codeCount :=
  Code.count_le_countAll (List.mem_filterMap.2 ⟨x, List.mem_finRange x, h⟩)

theorem length_le_size {xs : List (Fin L.size)} (h : xs.Nodup) : xs.length ≤ L.size := by
  simpa using h.length_le_card

/-- Where a chain of wrapped objects leads stays among objects that wrap each other only. -/
theorem mem_of_wraps {xs : List (Fin L.size)} (h : ∀ s ∈ xs, ∀ y, L.Wraps s y → y ∈ xs)
    {x z : Fin L.size} (hx : x ∈ xs) (hz : ReflTransGen L.Wraps x z) : z ∈ xs := by
  induction hz with
  | refl => exact hx
  | tail _ hwraps ih => exact h _ ih _ hwraps

theorem isBehind_of_layer {x : Fin L.size} {layer : Layer (Fin L.size)}
    (h : (L.facet x).layer? = some layer) (k : Code) :
    L.IsBehind x k ↔ ∃ y ∈ layer.held, L.IsBehind y k := by
  constructor
  · rintro ⟨y, z, hxy, hbare, hyz, hk⟩
    rcases ReflTransGen.cases_head hxy with rfl | ⟨w, ⟨layer', hlayer', hw⟩, hwy⟩
    · rw [h] at hbare
      cases hbare
    · obtain rfl : layer = layer' := by simpa [h] using hlayer'
      exact ⟨w, hw, y, z, hwy, hbare, hyz, hk⟩
  · rintro ⟨w, hw, y, z, hwy, hbare, hyz, hk⟩
    exact ⟨y, z, .head ⟨layer, h, hw⟩ hwy, hbare, hyz, hk⟩

theorem isBehind_of_bare {x : Fin L.size} (h : (L.facet x).layer? = none) (k : Code) :
    L.IsBehind x k ↔ ∃ z, ReflTransGen L.Wraps x z ∧ L.HasCode z k := by
  constructor
  · rintro ⟨y, z, hxy, -, hyz, hk⟩
    rcases ReflTransGen.cases_head hxy with rfl | ⟨w, ⟨layer, hlayer, -⟩, -⟩
    · exact ⟨z, hyz, hk⟩
    · rw [h] at hlayer
      cases hlayer
  · rintro ⟨z, hxz, hk⟩
    exact ⟨x, z, .refl, h, hxz, hk⟩

/-- No layer in an object, however deep, holds itself. -/
def IsSettled (x : Fin L.size) : Prop :=
  ∀ y, ReflTransGen L.Holds x y → ¬ TransGen L.Holds y y

end Landscape

namespace RaisingLandscape

variable (R : RaisingLandscape)

theorem answer_cases {β : Type} (q : Question) (x : Fin R.size) (shown : β) :
    R.answer q x shown = .ok shown ∨
      ∃ e, R.raised? q x = some e ∧ R.answer q x shown = .error e := by
  unfold answer
  cases R.raised? q x with
  | none => exact .inl rfl
  | some e => exact .inr ⟨e, rfl, rfl⟩

/-! ## Code of an object -/

/-- With a bound not below the number of its pieces all that is nested in some code is found. -/
theorem allNested_finds (depth : Nat) (k : Code) (h : k.count ≤ depth) :
    Finds (R.inspection.allNested depth k) (ReflTransGen Code.Contains k) := by
  induction depth generalizing k with
  | zero => exact absurd (Nat.lt_of_lt_of_le k.count_pos h) (Nat.lt_irrefl 0)
  | succ depth ih =>
      have hnested : ∀ l ∈ k.nested, Finds (R.inspection.allNested depth l)
          (ReflTransGen Code.Contains l) := fun l hl =>
        ih l (Nat.le_of_lt_succ (Nat.lt_of_lt_of_le (Code.count_lt_of_contains hl) h))
      obtain ⟨found, hrun, hfound⟩ := collect_finds hnested
      refine ⟨k :: found, ?_, fun l => ?_⟩
      · show (collect (R.inspection.allNested depth) k.nested >>= fun ks => pure (k :: ks)) = _
        rw [hrun]
        rfl
      · rw [List.mem_cons, hfound, ReflTransGen.cases_head_iff, eq_comm]
        exact Iff.rfl

theorem codeOf_findsOr {depth : Nat} (h : R.codeCount ≤ depth) (x : Fin R.size) :
    FindsOr (R.inspection.codeOf depth x) (R.HasCode x) fun e => R.raised? .code x = some e := by
  have hcode : R.inspection.code? x = R.answer .code x (R.facet x).code? := rfl
  rw [Inspection.codeOf, hcode]
  rcases R.answer_cases .code x (R.facet x).code? with hshown | ⟨e, he, herror⟩
  · rw [hshown]
    cases hc : (R.facet x).code? with
    | none => exact .inl ⟨[], rfl, fun k => by simp [Landscape.HasCode, hc]⟩
    | some c =>
        have hcount := Nat.le_trans (R.count_le_codeCount hc) h
        show FindsOr (R.inspection.allNested depth c) _ _
        refine .inl ((R.allNested_finds depth c hcount).congr fun k => ?_)
        simp [Landscape.HasCode, hc]
  · rw [herror]
    exact .inr ⟨e, rfl, he⟩

/-! ## Chains of wrapped objects -/

theorem isSeen_eq (x : Fin R.size) (seen : List (Fin R.size)) :
    R.inspection.isSeen x seen = .ok (decide (x ∈ seen)) := by
  induction seen with
  | nil => rfl
  | cons y ys ih =>
      show (if (x == y) = true then pure true else R.inspection.isSeen x ys) = _
      by_cases hxy : x = y
      · simp [hxy]; rfl
      · simp [hxy, ih]

/-- An error that an object of a chain raises when it is asked for its code or for what it wraps. -/
def RaisesAlong (x : Fin R.size) (e : Error) : Prop :=
  ∃ z, ReflTransGen R.Wraps x z ∧ (R.raised? .code z = some e ∨ R.raised? .wrapped z = some e)

/-- One step along a chain: what comes again is not followed. -/
theorem chainCode_succ {depth fuel : Nat} {seen : List (Fin R.size)} {x y : Fin R.size}
    {here : List Code} (hhere : R.inspection.codeOf depth x = .ok here)
    (hwrapped : R.inspection.wrapped? x = .ok (some y)) :
    R.inspection.chainCode depth (fuel + 1) seen x =
      if y ∈ x :: seen then .ok here
      else (R.inspection.chainCode depth fuel (x :: seen) y).map (here ++ ·) := by
  rw [Inspection.chainCode, hhere, hwrapped]
  show (R.inspection.isSeen y (x :: seen) >>= fun b => if b = true then pure here
    else R.inspection.chainCode depth fuel (x :: seen) y >>= fun ks => pure (here ++ ks)) = _
  rw [isSeen_eq]
  by_cases hseen : y ∈ x :: seen
  · rw [if_pos hseen, decide_eq_true hseen]
    rfl
  · rw [if_neg hseen, decide_eq_false hseen]
    rfl

/-- Along a chain of wrapped objects the code of each is found, but for those that were seen before;
what these wrap was seen as well, or is where the search stands. Or else an object raises an error.
-/
theorem chainCode_run {depth : Nat} (hdepth : R.codeCount ≤ depth) (fuel : Nat)
    {seen : List (Fin R.size)} {x : Fin R.size} (hnodup : (x :: seen).Nodup)
    (hclosed : ∀ s ∈ seen, ∀ y, R.Wraps s y → y ∈ x :: seen)
    (hfuel : R.size < fuel + seen.length) :
    (∃ found, R.inspection.chainCode depth fuel seen x = .ok found ∧
      (∀ k ∈ found, ∃ z, ReflTransGen R.Wraps x z ∧ R.HasCode z k) ∧
        ∀ z k, ReflTransGen R.Wraps x z → R.HasCode z k → z ∈ seen ∨ k ∈ found) ∨
      ∃ e, R.inspection.chainCode depth fuel seen x = .error e ∧ R.RaisesAlong x e := by
  induction fuel generalizing seen x with
  | zero =>
      have := R.length_le_size (List.nodup_cons.1 hnodup).2
      omega
  | succ fuel ih =>
      have hwrapped : R.inspection.wrapped? x = R.answer .wrapped x (R.facet x).wrapped? := rfl
      rcases R.codeOf_findsOr hdepth x with ⟨here, hhere, hcode⟩ | ⟨e, herror, he⟩
      swap
      · exact .inr ⟨e, by rw [Inspection.chainCode, herror]; rfl, x, .refl, .inl he⟩
      rcases R.answer_cases .wrapped x (R.facet x).wrapped? with hshown | ⟨e, he, herror⟩
      swap
      · exact .inr
          ⟨e, by rw [Inspection.chainCode, hhere, hwrapped, herror]; rfl, x, .refl, .inr he⟩
      have hsound : ∀ k ∈ here, ∃ z, ReflTransGen R.Wraps x z ∧ R.HasCode z k :=
        fun k hk => ⟨x, .refl, (hcode k).1 hk⟩
      rw [hshown] at hwrapped
      cases hy : (R.facet x).wrapped? with
      | none =>
          rw [hy] at hwrapped
          refine .inl ⟨here, by rw [Inspection.chainCode, hhere, hwrapped]; rfl, hsound, ?_⟩
          intro z k hz hk
          rcases ReflTransGen.cases_head hz with rfl | ⟨y, hxy, -⟩
          · exact Or.inr ((hcode k).2 hk)
          · rw [Landscape.Wraps, hy] at hxy
            cases hxy
      | some y =>
          rw [hy] at hwrapped
          rw [R.chainCode_succ hhere hwrapped]
          have hsucc : ∀ s ∈ x :: seen, ∀ w, R.Wraps s w → w ∈ y :: x :: seen := by
            intro s hs w hw
            rcases List.mem_cons.1 hs with rfl | hs
            · obtain rfl : y = w := by simpa [Landscape.Wraps, hy] using hw
              exact List.mem_cons_self
            · exact List.mem_cons_of_mem _ (hclosed s hs w hw)
          by_cases hseen : y ∈ x :: seen
          · -- the chain is a circle from here on, so everything on it was seen
            refine .inl ⟨here, if_pos hseen, hsound, fun z k hz hk => ?_⟩
            have hall : ∀ s ∈ x :: seen, ∀ w, R.Wraps s w → w ∈ x :: seen := by
              intro s hs w hw
              rcases List.mem_cons.1 (hsucc s hs w hw) with rfl | hw
              · exact hseen
              · exact hw
            rcases List.mem_cons.1 (R.mem_of_wraps hall List.mem_cons_self hz) with rfl | hz
            · exact Or.inr ((hcode k).2 hk)
            · exact Or.inl hz
          · rw [if_neg hseen]
            rcases ih (List.nodup_cons.2 ⟨hseen, hnodup⟩) hsucc (by simp; omega) with
              ⟨rest, hrest, hrestSound, hrestComplete⟩ | ⟨e, herror, z, hyz, hz⟩
            · refine .inl ⟨here ++ rest, by rw [hrest]; rfl, ?_, fun z k hz hk => ?_⟩
              · intro k hk
                rcases List.mem_append.1 hk with hk | hk
                · exact hsound k hk
                · obtain ⟨z, hz, hzk⟩ := hrestSound k hk
                  exact ⟨z, .head hy hz, hzk⟩
              · rcases ReflTransGen.cases_head hz with rfl | ⟨w, hw, hwz⟩
                · exact Or.inr (List.mem_append_left _ ((hcode k).2 hk))
                · obtain rfl : y = w := by simpa [Landscape.Wraps, hy] using hw
                  rcases hrestComplete z k hwz hk with hz | hk'
                  · rcases List.mem_cons.1 hz with rfl | hz
                    · exact Or.inr (List.mem_append_left _ ((hcode k).2 hk))
                    · exact Or.inl hz
                  · exact Or.inr (List.mem_append_right _ hk')
            · exact .inr ⟨e, by rw [herror]; rfl, z, .head hy hyz, hz⟩

/-- With a bound above the number of all objects the whole chain is looked through. -/
theorem chainCode_findsOr {fuel : Nat} (h : R.size + R.codeCount < fuel) (x : Fin R.size) :
    FindsOr (R.inspection.chainCode fuel fuel [] x)
      (fun k => ∃ z, ReflTransGen R.Wraps x z ∧ R.HasCode z k) (R.RaisesAlong x) := by
  have hdepth : R.codeCount ≤ fuel := by omega
  refine Or.imp_left (fun ⟨found, hrun, hsound, hcomplete⟩ => ?_)
    (R.chainCode_run hdepth fuel (List.nodup_singleton x) (by simp) (by simp; omega))
  refine ⟨found, hrun, fun k => ⟨hsound k, ?_⟩⟩
  rintro ⟨z, hz, hk⟩
  rcases hcomplete z k hz hk with hz | hk
  · cases hz
  · exact hk

/-! ## Layers -/

/-- An error that an object raises while code is looked for behind another one. -/
def RaisesBehind (x : Fin R.size) (e : Error) : Prop :=
  ∃ y, ReflTransGen R.Holds x y ∧
    (R.raised? .layer y = some e ∨ (R.facet y).layer? = none ∧ R.RaisesAlong y e)

/-- The search behind an object finds the code that is there, unless an object raises an error, or
layers in the object that the search started from hold themselves. `trail` are the layers that were
opened since then: if none of them comes again, there are no more than there are objects. -/
theorem codeBehind_run {fuel : Nat} (hfuel : R.size + R.codeCount < fuel) (depth : Nat)
    {start : Fin R.size} {trail : List (Fin R.size)} {x : Fin R.size}
    (hstart : ReflTransGen R.Holds start x) (htrail : ∀ t ∈ trail, TransGen R.Holds t x)
    (hnodup : (x :: trail).Nodup ∨ ¬ R.IsSettled start)
    (hdepth : R.size < depth + trail.length) :
    FindsOr (R.inspection.codeBehind fuel depth x) (R.IsBehind x) fun e =>
      R.RaisesBehind x e ∨ e = .tooManyLayers ∧ ¬ R.IsSettled start := by
  induction depth generalizing trail x with
  | zero =>
      refine .inr ⟨.tooManyLayers, rfl, .inr ⟨rfl, hnodup.resolve_left fun hnodup => ?_⟩⟩
      have := R.length_le_size (List.nodup_cons.1 hnodup).2
      omega
  | succ depth ih =>
      have hlayer : R.inspection.layer? x = R.answer .layer x (R.facet x).layer? := rfl
      rw [Inspection.codeBehind, hlayer]
      rcases R.answer_cases .layer x (R.facet x).layer? with hshown | ⟨e, he, herror⟩
      swap
      · exact .inr ⟨e, by rw [herror]; rfl, .inl ⟨x, .refl, .inl he⟩⟩
      rw [hshown]
      cases hl : (R.facet x).layer? with
      | none =>
          exact (R.chainCode_findsOr hfuel x).imp (fun k => (R.isBehind_of_bare hl k).symm)
            fun e he => .inl ⟨x, .refl, .inr ⟨hl, he⟩⟩
      | some layer =>
          have hheld : ∀ y ∈ layer.held, FindsOr (R.inspection.codeBehind fuel depth y)
              (R.IsBehind y) fun e =>
                R.RaisesBehind y e ∨ e = .tooManyLayers ∧ ¬ R.IsSettled start := by
            intro y hy
            have hxy : R.Holds x y := ⟨layer, hl, hy⟩
            have hxtrail : ∀ t ∈ x :: trail, TransGen R.Holds t y := by
              intro t ht
              rcases List.mem_cons.1 ht with rfl | ht
              · exact .single hxy
              · exact (htrail t ht).tail hxy
            refine ih (hstart.tail hxy) hxtrail ?_ (by simp; omega)
            by_cases hmem : y ∈ x :: trail
            · exact .inr fun hsettled => hsettled y (hstart.tail hxy) (hxtrail y hmem)
            · exact hnodup.imp_left fun hnodup => List.nodup_cons.2 ⟨hmem, hnodup⟩
          refine (collect_findsOr hheld).imp (fun k => (R.isBehind_of_layer hl k).symm) ?_
          rintro e ⟨y, hy, ⟨z, hyz, hz⟩ | hunsettled⟩
          · exact .inl ⟨z, .head ⟨layer, hl, hy⟩ hyz, hz⟩
          · exact .inr hunsettled

/-- The search behind an object finds the code that is there, unless an object raises an error or
layers hold themselves. -/
theorem codeBehind_findsOr (x : Fin R.size) :
    FindsOr (R.inspection.codeBehind (R.size + R.codeCount + 1) (R.size + 1) x) (R.IsBehind x)
      fun e => R.RaisesBehind x e ∨ e = .tooManyLayers ∧ ¬ R.IsSettled x :=
  R.codeBehind_run (Nat.lt_succ_self _) _ .refl (by simp) (.inl (List.nodup_singleton x))
    (by simp)

end RaisingLandscape

namespace Landscape

variable (L : Landscape)

theorem not_raisesBehind (x : Fin L.size) (e : Error) : ¬ L.plain.RaisesBehind x e := by
  rintro ⟨y, -, hraised | ⟨-, z, -, hraised | hraised⟩⟩ <;> cases hraised

/-- The search behind a settled object comes to an end, where no object raises an error. -/
theorem codeBehind_finds {x : Fin L.size} (hx : L.IsSettled x) :
    Finds (L.inspection.codeBehind (L.size + L.codeCount + 1) (L.size + 1) x) (L.IsBehind x) :=
  (L.plain.codeBehind_findsOr x).finds fun e he =>
    he.elim (L.not_raisesBehind x e) fun h => h.2 hx

end Landscape

end StubClass
