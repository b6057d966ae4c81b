import Mathlib.Order.Lattice.Nat
import StubClass.Proofs.Class.Access

set_option autoImplicit false

/-! # Descendants level by level

The descendants of a class are listed by their distance from it. While the list is gone through, it
ascends, and nothing in it is more than one step further away than the object at the place
(`Leveled`). So what is added there is exactly one step further: anything nearer has a way over an
object before the place, and is in the list already (`Leveled.distance_eq_of_new`). -/

namespace StubClass

open Relation

variable {α : Type} {below : α → List α} {owner : α}

/-! ## Distance -/

/-- An object is reached from an owner by so many steps down. -/
inductive IsStepsBelow (below : α → List α) (owner : α) : Nat → α → Prop where
  | start : IsStepsBelow below owner 0 owner
  | down {n : Nat} {c k : α} (h : IsStepsBelow below owner n c) (hk : IsBelow below c k) :
      IsStepsBelow below owner (n + 1) k

/-- The least number of steps from an owner down to an object. -/
noncomputable def distance (below : α → List α) (owner k : α) : Nat :=
  sInf {n | IsStepsBelow below owner n k}

theorem exists_isStepsBelow_iff {k : α} :
    (∃ n, IsStepsBelow below owner n k) ↔ ReflTransGen (IsBelow below) owner k := by
  constructor
  · rintro ⟨n, h⟩
    induction h with
    | start => exact .refl
    | down _ hk ih => exact ih.tail hk
  · intro h
    induction h with
    | refl => exact ⟨0, .start⟩
    | tail _ hk ih =>
        obtain ⟨n, hn⟩ := ih
        exact ⟨n + 1, hn.down hk⟩

theorem IsStepsBelow.distance_le {n : Nat} {k : α} (h : IsStepsBelow below owner n k) :
    distance below owner k ≤ n :=
  Nat.sInf_le h

theorem isStepsBelow_distance {k : α} (h : ReflTransGen (IsBelow below) owner k) :
    IsStepsBelow below owner (distance below owner k) k :=
  Nat.sInf_mem (exists_isStepsBelow_iff.2 h)

theorem distance_le_succ {c k : α} (h : ReflTransGen (IsBelow below) owner c)
    (hk : IsBelow below c k) : distance below owner k ≤ distance below owner c + 1 :=
  ((isStepsBelow_distance h).down hk).distance_le

theorem eq_owner_of_distance_eq_zero {k : α} (h : ReflTransGen (IsBelow below) owner k)
    (hk : distance below owner k = 0) : k = owner := by
  have hsteps := isStepsBelow_distance h
  rw [hk] at hsteps
  cases hsteps
  rfl

/-- A way of least length comes over an object that is one step nearer. -/
theorem exists_nearer {k : α} {n : Nat} (h : ReflTransGen (IsBelow below) owner k)
    (hk : distance below owner k = n + 1) :
    ∃ c, ReflTransGen (IsBelow below) owner c ∧ IsBelow below c k ∧
      distance below owner c = n := by
  have hsteps := isStepsBelow_distance h
  rw [hk] at hsteps
  cases hsteps with
  | @down _ c _ hc hck =>
      have hreached := exists_isStepsBelow_iff.1 ⟨n, hc⟩
      have := distance_le_succ hreached hck
      exact ⟨c, hreached, hck, Nat.le_antisymm hc.distance_le (by omega)⟩

/-! ## One place further -/

/-- How the distances in a list of descendants are that was gone through up to a place. -/
structure Leveled (below : α → List α) (owner : α) (found : List α) (place : Nat) : Prop where
  ascending : found.Pairwise fun a b => distance below owner a ≤ distance below owner b
  near : ∀ c, found[place]? = some c → ∀ k ∈ found,
    distance below owner k ≤ distance below owner c + 1

theorem Leveled.start : Leveled below owner [owner] 0 where
  ascending := List.pairwise_singleton _ _
  near c hc k hk := by
    obtain rfl : owner = c := by simpa using hc
    rw [List.mem_singleton.1 hk]
    exact Nat.le_succ _

/-- What is in the list and nearer than the object at the place stands before it. -/
theorem Leveled.exists_lt_of_mem {found : List α} {place : Nat} {c k : α}
    (h : Leveled below owner found place) (hc : found[place]? = some c) (hk : k ∈ found)
    (hnearer : distance below owner k < distance below owner c) :
    ∃ i < place, found[i]? = some k := by
  obtain ⟨i, hi, rfl⟩ := List.getElem_of_mem hk
  obtain ⟨hplace, rfl⟩ := List.getElem?_eq_some_iff.1 hc
  refine ⟨i, ?_, List.getElem?_eq_getElem hi⟩
  by_contra hlt
  rcases Nat.eq_or_lt_of_not_lt hlt with rfl | hlt
  · exact Nat.lt_irrefl _ hnearer
  · exact Nat.not_lt.2 (List.pairwise_iff_getElem.1 h.ascending place i hplace hi hlt) hnearer

/-- Whatever is nearer than the object at the place stands before it: so does the object that a
shortest way to it comes over, and all that is below that one is in the list. -/
theorem Leveled.exists_lt_of_nearer {found : List α} {place : Nat} {c k : α}
    (h : Leveled below owner found place) (hlisted : Listed below owner found place)
    (hc : found[place]? = some c) (hk : ReflTransGen (IsBelow below) owner k)
    (hnearer : distance below owner k < distance below owner c) :
    ∃ i < place, found[i]? = some k := by
  refine h.exists_lt_of_mem hc ?_ hnearer
  induction hn : distance below owner k generalizing k with
  | zero =>
      rw [eq_owner_of_distance_eq_zero hk hn]
      exact List.mem_of_mem_head? hlisted.starts
  | succ n ih =>
      obtain ⟨q, hq, hqk, hqn⟩ := exists_nearer hk hn
      obtain ⟨i, hi, hqi⟩ := h.exists_lt_of_mem hc (ih hq (by omega) hqn) (by omega)
      exact hlisted.complete i hi q hqi k hqk

/-- What is added for the object at the place is one step further away. -/
theorem Leveled.distance_eq_of_new {found : List α} {place : Nat} {c k : α}
    (h : Leveled below owner found place) (hlisted : Listed below owner found place)
    (hc : found[place]? = some c) (hk : IsBelow below c k) (hnew : k ∉ found) :
    distance below owner k = distance below owner c + 1 := by
  have hreached := hlisted.derived c (List.mem_of_getElem? hc)
  refine Nat.le_antisymm (distance_le_succ hreached hk) (Nat.succ_le_of_lt ?_)
  by_contra hle
  refine hnew ?_
  cases hn : distance below owner k with
  | zero =>
      rw [eq_owner_of_distance_eq_zero (hreached.tail hk) hn]
      exact List.mem_of_mem_head? hlisted.starts
  | succ n =>
      obtain ⟨q, hq, hqk, hqn⟩ := exists_nearer (hreached.tail hk) hn
      obtain ⟨i, hi, hqi⟩ := h.exists_lt_of_nearer hlisted hc hq (by omega)
      exact hlisted.complete i hi q hqi k hqk

theorem Leveled.next {found added : List α} {place : Nat} {c : α}
    (h : Leveled below owner found place) (hlisted : Listed below owner found place)
    (hc : found[place]? = some c) (hbelow : ∀ k ∈ added, k ∈ below c)
    (hnodup : (found ++ added).Nodup) : Leveled below owner (found ++ added) (place + 1) := by
  have hadded : ∀ k ∈ added, distance below owner k = distance below owner c + 1 := by
    intro k hk
    refine h.distance_eq_of_new hlisted hc (hbelow k hk) fun hfound => ?_
    exact (List.nodup_append.1 hnodup).2.2 k hfound k hk rfl
  have hascending : (found ++ added).Pairwise
      fun a b => distance below owner a ≤ distance below owner b := by
    refine List.pairwise_append.2 ⟨h.ascending, ?_, fun a ha b hb => ?_⟩
    · exact List.pairwise_of_forall_mem_list fun a ha b hb => by rw [hadded a ha, hadded b hb]
    · exact (hadded b hb).symm ▸ h.near c hc a ha
  refine ⟨hascending, fun c' hc' k hk => ?_⟩
  -- the next object is no nearer than the one before, which all are near to
  have hplace : (found ++ added)[place]? = some c := by
    rw [List.getElem?_append_left (List.getElem?_eq_some_iff.1 hc).1, hc]
  obtain ⟨hlt, rfl⟩ := List.getElem?_eq_some_iff.1 hplace
  obtain ⟨hlt', rfl⟩ := List.getElem?_eq_some_iff.1 hc'
  have hle := List.pairwise_iff_getElem.1 hascending place (place + 1) hlt hlt' (Nat.lt_succ_self _)
  rcases List.mem_append.1 hk with hk | hk
  · exact Nat.le_trans (h.near _ hc k hk) (Nat.succ_le_succ hle)
  · exact hadded k hk ▸ Nat.succ_le_succ hle

/-! ## The whole list -/

namespace Landscape

variable (L : Landscape)

/-- **The search for descendants ends, with each descendant once and the nearest first.** However
classes are derived from each other, in diamonds or in circles, the search comes to the same list
with any fuel for more places than there are objects, and that list is what the check of a call of a
protected member looks at: it starts with the owner, has no class twice, has exactly the classes
that are reached from the owner by steps down, and ascends by the least number of such steps. -/
theorem descendants_levels (d : MethodDefinition) (owner : Fin L.size) :
    ∃ all, (∀ fuel, L.size < fuel →
        descendants (L.gate d owner).below (L.gate d owner).isAmong fuel owner = .ok all) ∧
      (L.gate d owner).classes owner =
        .ok (if d.visibility = .protectedMember then all else [owner]) ∧
      all.head? = some owner ∧ all.Nodup ∧ (∀ c, c ∈ all ↔ ReflTransGen L.Derives owner c) ∧
      all.Pairwise fun a b => distance (fun c => (L.facet c).derived) owner a ≤
        distance (fun c => (L.facet c).derived) owner b := by
  have hstart : Leveled (fun c => (L.facet c).derived) owner [owner] 0 := .start
  obtain ⟨all, hruns, hlisted, hleveled⟩ := descendantsFrom_keeps (m := Except Error)
    (fun _ => L.length_le_size)
    (fun found added place c hlisted hc hbelow hnodup h => h.next hlisted hc hbelow hnodup)
    (.start owner) hstart
  have hruns' (fuel : Nat) (hfuel : L.size < fuel) :
      descendants (L.gate d owner).below (L.gate d owner).isAmong fuel owner = .ok all := by
    rw [L.isAmong_eq]
    exact hruns fuel hfuel
  refine ⟨all, hruns', ?_, hlisted.starts, hlisted.nodup, hlisted.mem_iff (Nat.le_refl _),
    hleveled.ascending⟩
  refine (RaisingLandscape.classes_eq L.plain d owner).trans ?_
  split
  · exact hruns' _ (Nat.lt_succ_of_le (Nat.le_add_right _ _))
  · rfl

end Landscape

end StubClass
