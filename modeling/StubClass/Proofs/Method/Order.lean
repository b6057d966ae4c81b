import Mathlib.Data.List.Pairwise
import StubClass.Method.Builder

set_option autoImplicit false

/-! # Well-formed lists of parameters

A list of parameters is well formed for a visibility when its names are identifiers, told apart by
their texts and from the name of the receiver, and when its kinds stand in the order of a call:
required ones, then optional ones, then those by keyword. A builder looks at the last kind alone;
that this is enough is `inCallOrder_append_iff`, through the description of the order by ranks
(`inCallOrder_iff_pairwise`): in a list whose ranks do not fall, the last one is the greatest. -/

namespace StubClass

/-! ## The order of a call -/

/-- Required parameters, then optional ones, then those by keyword in any order. -/
def InCallOrder (ps : List Parameter) : Prop :=
  ∃ required optional named, ps = required ++ optional ++ named ∧
    (∀ p ∈ required, p.kind = .required) ∧ (∀ p ∈ optional, p.kind = .optional) ∧
    ∀ p ∈ named, p.kind = .keywordRequired ∨ p.kind = .keyword

/-- The group of a kind in the order of a call. -/
def ParameterKind.rank : ParameterKind → Nat
  | required => 0
  | optional => 1
  | keywordRequired | keyword => 2

namespace ParameterKind

theorem rank_eq_zero_iff (k : ParameterKind) : k.rank = 0 ↔ k = .required := by
  cases k <;> simp [rank]

theorem rank_eq_one_iff (k : ParameterKind) : k.rank = 1 ↔ k = .optional := by
  cases k <;> simp [rank]

theorem rank_eq_two_iff (k : ParameterKind) :
    k.rank = 2 ↔ k = .keywordRequired ∨ k = .keyword := by
  cases k <;> simp [rank]

theorem rank_le_two (k : ParameterKind) : k.rank ≤ 2 := by
  cases k <;> simp [rank]

theorem isKeyword_iff (k : ParameterKind) : k.isKeyword = true ↔ k.rank = 2 := by
  cases k <;> simp [rank, isKeyword]

end ParameterKind

/-- The group of a parameter is not behind that of another one. -/
def Parameter.NotBehind (p q : Parameter) : Prop :=
  p.kind.rank ≤ q.kind.rank

theorem InCallOrder.pairwise {ps : List Parameter} (h : InCallOrder ps) :
    ps.Pairwise Parameter.NotBehind := by
  obtain ⟨required, optional, named, rfl, hr, ho, hn⟩ := h
  have hr' : ∀ p ∈ required, p.kind.rank = 0 :=
    fun p hp => (ParameterKind.rank_eq_zero_iff _).2 (hr p hp)
  have ho' : ∀ p ∈ optional, p.kind.rank = 1 :=
    fun p hp => (ParameterKind.rank_eq_one_iff _).2 (ho p hp)
  have hn' : ∀ p ∈ named, p.kind.rank = 2 :=
    fun p hp => (ParameterKind.rank_eq_two_iff _).2 (hn p hp)
  -- inside of a group all ranks are one number, and the numbers of the groups grow
  have constant : ∀ (l : List Parameter) (n : Nat), (∀ p ∈ l, p.kind.rank = n) →
      l.Pairwise Parameter.NotBehind := by
    intro l n hl
    refine List.pairwise_of_forall_mem_list fun p hp q hq => ?_
    simp only [Parameter.NotBehind, hl p hp, hl q hq, Nat.le_refl]
  rw [List.pairwise_append, List.pairwise_append]
  refine ⟨⟨constant _ 0 hr', constant _ 1 ho', ?_⟩, constant _ 2 hn', ?_⟩
  · intro p hp q hq
    simp only [Parameter.NotBehind, hr' p hp, ho' q hq, Nat.zero_le]
  · intro p _ q hq
    simp only [Parameter.NotBehind, hn' q hq, ParameterKind.rank_le_two]

/-- A list whose ranks do not fall falls into the three groups, some of which may be empty. -/
theorem inCallOrder_of_pairwise {ps : List Parameter} (h : ps.Pairwise Parameter.NotBehind) :
    InCallOrder ps := by
  induction ps with
  | nil => exact ⟨[], [], [], by simp⟩
  | cons p ps ih =>
      obtain ⟨hp, hps⟩ := List.pairwise_cons.1 h
      obtain ⟨required, optional, named, rfl, hr, ho, hn⟩ := ih hps
      -- a group that would stand before that of `p` has no place in the rest
      have noRequired : p.kind.rank ≠ 0 → required = [] := by
        intro h0
        refine List.eq_nil_iff_forall_not_mem.2 fun q hq => h0 ?_
        have hle := hp q (by simp [hq])
        rw [Parameter.NotBehind, (ParameterKind.rank_eq_zero_iff _).2 (hr q hq)] at hle
        exact Nat.le_zero.1 hle
      have noOptional : p.kind.rank = 2 → optional = [] := by
        intro h2
        refine List.eq_nil_iff_forall_not_mem.2 fun q hq => ?_
        have hle := hp q (by simp [hq])
        rw [Parameter.NotBehind, h2, (ParameterKind.rank_eq_one_iff _).2 (ho q hq)] at hle
        omega
      have hcases : p.kind.rank = 0 ∨ p.kind.rank = 1 ∨ p.kind.rank = 2 := by
        have := p.kind.rank_le_two
        omega
      rcases hcases with h0 | h1 | h2
      · refine ⟨p :: required, optional, named, by simp, ?_, ho, hn⟩
        simpa [(ParameterKind.rank_eq_zero_iff _).1 h0] using hr
      · obtain rfl := noRequired (by omega)
        refine ⟨[], p :: optional, named, by simp, by simp, ?_, hn⟩
        simpa [(ParameterKind.rank_eq_one_iff _).1 h1] using ho
      · obtain rfl := noRequired (by omega)
        obtain rfl := noOptional h2
        refine ⟨[], [], p :: named, by simp, by simp, by simp, ?_⟩
        intro q hq
        rcases List.mem_cons.1 hq with rfl | hq
        · exact (ParameterKind.rank_eq_two_iff _).1 h2
        · exact hn q hq

theorem inCallOrder_iff_pairwise (ps : List Parameter) :
    InCallOrder ps ↔ ps.Pairwise Parameter.NotBehind :=
  ⟨InCallOrder.pairwise, inCallOrder_of_pairwise⟩

theorem InCallOrder.tail {p : Parameter} {ps : List Parameter} (h : InCallOrder (p :: ps)) :
    InCallOrder ps :=
  inCallOrder_of_pairwise (List.pairwise_cons.1 h.pairwise).2

/-- From a keyword parameter on no parameter goes by position. -/
theorem InCallOrder.countP_eq_zero {p : Parameter} {ps : List Parameter}
    (h : InCallOrder (p :: ps)) (hp : p.kind.isKeyword = true) :
    (p :: ps).countP (fun q => !q.kind.isKeyword) = 0 := by
  have hbehind := (List.pairwise_cons.1 h.pairwise).1
  rw [List.countP_eq_zero]
  intro q hq
  rcases List.mem_cons.1 hq with rfl | hq
  · simp [hp]
  · have hle : p.kind.rank ≤ q.kind.rank := hbehind q hq
    rw [(ParameterKind.isKeyword_iff _).1 hp] at hle
    have hrank := Nat.le_antisymm q.kind.rank_le_two hle
    simp [(ParameterKind.isKeyword_iff _).2 hrank]

/-- In a list in order the last parameter is of the furthest group. -/
theorem InCallOrder.notBehind_last {ps : List Parameter} (h : InCallOrder ps) {last : Parameter}
    (hlast : ps.getLast? = some last) {q : Parameter} (hq : q ∈ ps) : q.NotBehind last := by
  obtain ⟨init, rfl⟩ := List.getLast?_eq_some_iff.1 hlast
  rcases List.mem_append.1 hq with hq | hq
  · exact (List.pairwise_append.1 h.pairwise).2.2 q hq last (by simp)
  · rw [List.mem_singleton.1 hq]
    exact Nat.le_refl _

/-- Behind a list in order a parameter stands in order exactly when its group is not before that of
the last one. -/
theorem inCallOrder_append_iff (ps : List Parameter) (p : Parameter) :
    InCallOrder (ps ++ [p]) ↔ InCallOrder ps ∧ ∀ q ∈ ps.getLast?, q.NotBehind p := by
  rw [inCallOrder_iff_pairwise, inCallOrder_iff_pairwise, List.pairwise_append]
  simp only [List.pairwise_singleton, true_and, List.mem_singleton, forall_eq]
  refine and_congr_right fun h => ⟨fun hall q hq => hall q (List.mem_of_getLast? hq), ?_⟩
  intro hlast q hq
  cases hl : ps.getLast? with
  | none => simp [List.getLast?_eq_none_iff.1 hl] at hq
  | some last =>
      exact Nat.le_trans ((inCallOrder_of_pairwise h).notBehind_last hl hq) (hlast last hl)

/-! ## Well-formed lists -/

/-- What the parameters of a member of a visibility have to be like. -/
structure WellFormed (v : Visibility) (ps : List Parameter) : Prop where
  valid : ∀ p ∈ ps, Text.isIdentifier p.name.text = true
  distinct : (ps.map fun p => p.name.text).Nodup
  notReceiver : ∀ p ∈ ps, p.name.text ≠ v.receiver.text
  inOrder : InCallOrder ps

theorem WellFormed.nil (v : Visibility) : WellFormed v [] where
  valid := by simp
  distinct := by simp
  notReceiver := by simp
  inOrder := ⟨[], [], [], by simp⟩

/-- The first parameters of a well-formed list are well formed. -/
theorem WellFormed.of_append {v : Visibility} {ps qs : List Parameter}
    (h : WellFormed v (ps ++ qs)) : WellFormed v ps where
  valid p hp := h.valid p (List.mem_append_left qs hp)
  distinct := by
    have hnodup := h.distinct
    rw [List.map_append, List.nodup_append] at hnodup
    exact hnodup.1
  notReceiver p hp := h.notReceiver p (List.mem_append_left qs hp)
  inOrder := inCallOrder_of_pairwise (List.pairwise_append.1 h.inOrder.pairwise).1

/-- What one more parameter has to be like for a well-formed list to stay well formed. That its name
is an identifier is known from its type. -/
theorem wellFormed_append_iff (v : Visibility) (ps : List Parameter) (p : Parameter) :
    WellFormed v (ps ++ [p]) ↔
      WellFormed v ps ∧ (p.name.text ≠ v.receiver.text ∧ ∀ q ∈ ps, q.name.text ≠ p.name.text) ∧
        ∀ q ∈ ps.getLast?, q.NotBehind p := by
  constructor
  · rintro ⟨valid, distinct, notReceiver, inOrder⟩
    obtain ⟨hps, hlast⟩ := (inCallOrder_append_iff ps p).1 inOrder
    rw [List.map_append, List.nodup_append] at distinct
    obtain ⟨hnodup, -, hnew⟩ := distinct
    refine ⟨⟨fun q hq => valid q (by simp [hq]), hnodup, fun q hq => notReceiver q (by simp [hq]),
      hps⟩, ⟨notReceiver p (by simp), fun q hq => ?_⟩, hlast⟩
    exact hnew _ (List.mem_map_of_mem hq) _ (by simp)
  · rintro ⟨⟨valid, distinct, notReceiver, inOrder⟩, ⟨hreceiver, hnew⟩, hlast⟩
    refine ⟨?_, ?_, ?_, (inCallOrder_append_iff ps p).2 ⟨inOrder, hlast⟩⟩
    · simpa [or_imp, forall_and] using ⟨valid, p.name.valid⟩
    · rw [List.map_append, List.nodup_append]
      refine ⟨distinct, by simp, ?_⟩
      simpa using hnew
    · simpa [or_imp, forall_and] using ⟨notReceiver, hreceiver⟩

end StubClass
