import StubClass.Proofs.Class.Building

set_option autoImplicit false

/-! # What building leaves of a registry

Building a class adds members and one class behind all others (`build_extends`), and a class holds
only members that are there (`build_isSound`). So what is found on the classes that were there stays
the same, whatever is built (`memberOf?_of_extends`). -/

namespace StubClass

namespace Registry

/-- What a registry still has of an earlier one. -/
structure Extends (new old : Registry) : Prop where
  members : old.members <+: new.members
  classes : old.classes <+: new.classes

theorem Extends.refl (r : Registry) : r.Extends r :=
  ⟨List.prefix_rfl, List.prefix_rfl⟩

theorem Extends.trans {a b c : Registry} (hcb : c.Extends b) (hba : b.Extends a) : c.Extends a :=
  ⟨hba.members.trans hcb.members, hba.classes.trans hcb.classes⟩

/-- Whether the members that classes hold are there. -/
def IsSound (r : Registry) : Prop :=
  ∀ c ∈ r.classes, ∀ place, c.own.holds place = true → place < r.members.length

theorem IsSound.empty : Registry.empty.IsSound :=
  fun _ hc => absurd hc List.not_mem_nil

variable {r : Registry} {settings : Settings} {ds : List MethodDefinition} {built : Registry}

/-! ## Building -/

/-- What a class will hold are members that were made. -/
theorem addAll_holds {es : List MethodDefinition} {sofar after : List Member × Namespace}
    (h : (r.building settings ds).addAll sofar es = .ok after)
    (hsofar : ∀ place, sofar.2.holds place = true → place < sofar.1.length) :
    ∀ place, after.2.holds place = true → place < after.1.length := by
  induction es generalizing sofar with
  | nil =>
      cases h
      exact hsofar
  | cons d es ih =>
      rw [addAll_cons] at h
      cases hadd : add settings sofar d with
      | error e => simp [hadd] at h
      | ok next =>
          rw [hadd] at h
          refine ih h fun place hplace => ?_
          -- what is put under a name is the member that was made last
          obtain ⟨x, n, -, -, rfl⟩ := add_eq_ok hadd
          rw [List.length_append, List.length_singleton, Nat.lt_succ_iff_lt_or_eq]
          refine (Namespace.holds_of_put hplace).imp (hsofar place) fun heq => ?_
          exact (Option.some.inj heq).symm

/-- The class that is built stands behind all others and holds members that are there. -/
theorem build_class (h : r.build settings ds = .ok built) :
    ∃ c, built.classes = r.classes ++ [c] ∧
      ∀ place, c.own.holds place = true → place < built.members.length := by
  rw [build_eq] at h
  cases hadded : (r.building settings ds).addAll (r.members, settings.notes) ds with
  | error e => simp [hadded] at h
  | ok after =>
      rw [hadded] at h
      obtain ⟨-, rfl⟩ := (make_eq_ok_iff { r with members := after.1 } _ _ _).1 h
      refine ⟨_, rfl, fun place hplace => ?_⟩
      have hnotes (place : Nat) (hnote : settings.notes.holds place = true) :
          place < r.members.length := by
        rw [notes_holds] at hnote
        cases hnote
      simpa [adopt] using addAll_holds hadded hnotes place (Namespace.holds_of_remove hplace)

theorem build_extends (h : r.build settings ds = .ok built) : built.Extends r := by
  obtain ⟨-, new, hmembers, -⟩ := r.build_members h
  obtain ⟨c, hclasses, -⟩ := build_class h
  exact ⟨⟨new, hmembers.symm⟩, ⟨[c], hclasses.symm⟩⟩

theorem build_isSound (h : r.build settings ds = .ok built) (hr : r.IsSound) : built.IsSound := by
  obtain ⟨c, hclasses, hc⟩ := build_class h
  intro k hk place hplace
  rw [hclasses, List.mem_append, List.mem_singleton] at hk
  rcases hk with hk | rfl
  · exact (hr k hk place hplace).trans_le (build_extends h).members.length_le
  · exact hc place hplace

/-! ## What is found on classes -/

variable {new old : Registry}

/-- On classes that were there the same is found as then. -/
theorem memberOf?_of_extends (h : new.Extends old) (hold : old.IsSound) {order : List BuiltClass}
    (horder : order ⊆ old.classes) (name : Name) :
    new.memberOf? order name = old.memberOf? order name := by
  unfold memberOf?
  rw [stubMembers_find?]
  refine Option.bind_congr fun place hplace => ?_
  -- the place is that of a member which one of the classes holds
  have hlength : place < old.members.length := by
    simp only [List.any_nil, Bool.false_eq_true, if_false] at hplace
    obtain ⟨e, he, heplace⟩ := Option.bind_eq_some_iff.1 hplace
    obtain ⟨c, hc, hec⟩ := List.mem_flatMap.1 (List.mem_of_find?_eq_some he)
    exact hold c (horder hc) place (List.any_eq_true.2 ⟨e, hec, by simp [heplace]⟩)
  obtain ⟨added, hadded⟩ := h.members
  rw [← hadded, List.getElem?_append_left hlength]

end Registry

end StubClass
