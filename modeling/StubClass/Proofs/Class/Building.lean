import Mathlib.Data.List.Nodup
import StubClass.Generator.System
import StubClass.Proofs.Class.Namespace
import StubClass.Proofs.Generator.Frozen
import StubClass.Proofs.Generator.Names
import StubClass.Proofs.Signature.Forming

set_option autoImplicit false

/-! # What a built class holds

The members of definitions are put under their names one after another, so in the end each name has
the member of the last definition that has it (`addAll_added`). The names of frozen definitions mean
nothing to the making of classes, so the class is made when all members are; and a member is made
when its definition can be written and its parameters stand in the order of a call in a signature.
That is all that building a class of frozen definitions needs (`build_frozen`). -/

namespace StubClass

namespace Member

/-! ## Making a member -/

theorem create_eq_ok {settings : Settings} {d : MethodDefinition} {x : Member}
    (h : create settings d = .ok x) :
    x.definition = d ∧ x.resolver = d.resolver settings ∧
      x.bindsToClass = d.visibility.isClassLevel ∧ x.owner = none := by
  unfold create at h
  split at h
  · cases h
  · next s hs =>
      cases h
      exact ⟨Stub.definition_of_create hs, rfl, rfl, rfl⟩

/-- Whether a member was made of one of some definitions within settings, and is owned by no class
but the one at a place. -/
structure IsMadeOf (settings : Settings) (ds : List MethodDefinition) (place : Nat) (x : Member) :
    Prop where
  made : ∃ d ∈ ds, create settings d = .ok { x with owner := none }
  owner : ∀ i, x.owner = some i → i = place

theorem exists_create_iff (settings : Settings) (d : MethodDefinition) :
    (∃ x, create settings d = .ok x) ↔ ∃ s, Stub.create d = .ok s := by
  unfold create
  split
  · next e h => simp [h]
  · next s h => simp [h]

end Member

/-! ## Names -/

/-- The last of some definitions that has a name. -/
def lastNamed? (ds : List MethodDefinition) (name : Name) : Option MethodDefinition :=
  ds.reverse.find? fun d => d.isNamed name

theorem lastNamed?_cons (d : MethodDefinition) (ds : List MethodDefinition) (name : Name) :
    lastNamed? (d :: ds) name =
      (lastNamed? ds name).or (if d.isNamed name then some d else none) := by
  rw [lastNamed?, List.reverse_cons, List.find?_append, List.find?_singleton]
  rfl

theorem MethodDefinition.isNamed_iff {d : MethodDefinition} {n : Name}
    (h : Name.ofValue? d.name = some n) (name : Name) :
    d.isNamed name = true ↔ n.text = name.text := by
  rw [isNamed, Name.text?_of_ofValue? h]
  simp

theorem lastNamed?_of_nodup {ds : List MethodDefinition}
    (hnodup : (ds.map fun d => d.name.text?).Nodup) {d : MethodDefinition} (hd : d ∈ ds)
    {name : Name} (hname : d.isNamed name = true) : lastNamed? ds name = some d := by
  cases hlast : lastNamed? ds name with
  | none => exact absurd hname (List.find?_eq_none.1 hlast d (List.mem_reverse.2 hd))
  | some e =>
      have he : e ∈ ds := List.mem_reverse.1 (List.mem_of_find?_eq_some hlast)
      have hsame : e.name.text? = d.name.text? := by
        have hnamed := List.find?_some hlast
        simp only [MethodDefinition.isNamed, beq_iff_eq] at hname hnamed
        rw [hname, hnamed]
      rw [List.inj_on_of_nodup_map hnodup he hd hsame]

/-- Whether a text starts and ends with two underscores, as the names do that mean something to the
making of classes. -/
def HasReservedForm (text : String) : Prop :=
  ("__".toList.isPrefixOf text.toList && "__".toList.isSuffixOf text.toList) = true

theorem lastNamed?_reserved {ds : List MethodDefinition} (hds : ∀ d ∈ ds, d.IsFrozen) {name : Name}
    (h : HasReservedForm name.text) : lastNamed? ds name = none := by
  rw [lastNamed?, List.find?_eq_none]
  intro d hd hnamed
  obtain ⟨i, hname, hreserved⟩ := (hds d (List.mem_reverse.1 hd)).wellFormed.1
  have htext : i.text = name.text :=
    (MethodDefinition.isNamed_iff (by rw [hname, Name.ofValue?_toValue]) _).1 hnamed
  rw [Identifier.isReserved, htext, h] at hreserved
  cases hreserved

/-- In a signature a frozen definition is in order too, unless an applied default stands for none.
-/
theorem MethodDefinition.IsFrozen.inCallOrder_effective {d : MethodDefinition} (hd : d.IsFrozen)
    (h : ∀ p ∈ d.parameters, p.kind.hasDefault = true → p.default.isNoDefault = false) :
    InCallOrder (d.parameters.map Parameter.effective) := by
  rw [Parameter.map_effective_eq_self h]
  exact hd.wellFormed.2.inOrder

namespace Registry

/-! ## Adding members -/

variable {settings : Settings} {sofar after : List Member × Namespace}

theorem add_eq_ok {d : MethodDefinition} (h : add settings sofar d = .ok after) :
    ∃ x name, Member.create settings d = .ok x ∧ Name.ofValue? d.name = some name ∧
      after = (sofar.1 ++ [x], sofar.2.put name (.member sofar.1.length)) := by
  unfold add at h
  cases hcreate : Member.create settings d with
  | error e => simp [hcreate, bind, Except.bind] at h
  | ok x =>
      simp only [hcreate, bind, Except.bind] at h
      cases hname : Name.ofValue? d.name with
      | none => simp [hname, throw, throwThe, MonadExceptOf.throw] at h
      | some name =>
          simp only [hname, pure, Except.pure, Except.ok.injEq] at h
          exact ⟨x, name, rfl, rfl, h.symm⟩

variable (settings sofar) in
/-- The member of a frozen definition is made when it can be written and stands in order. -/
theorem exists_add_iff {d : MethodDefinition} (hd : d.IsFrozen) :
    (∃ after, add settings sofar d = .ok after) ↔
      d.isWritable = true ∧ InCallOrder (d.parameters.map Parameter.effective) := by
  obtain ⟨⟨i, hname, -⟩, hwf⟩ := hd.wellFormed
  have hstub : (∃ s, Stub.create d = .ok s) ↔
      d.isWritable = true ∧ InCallOrder (d.parameters.map Parameter.effective) := by
    have htext : ∃ text, d.name.text? = some text := ⟨_, by rw [hname, Name.text?_toValue]⟩
    simp only [Stub.create_eq_ok_iff, exists_and_left, exists_eq, and_true, htext, true_and,
      wellFormed_effective_iff, hwf.distinct]
    exact and_congr_right fun _ => and_iff_left hwf.notReceiver
  rw [← hstub, ← Member.exists_create_iff settings]
  constructor
  · rintro ⟨after, h⟩
    obtain ⟨x, name, hcreate, -⟩ := add_eq_ok h
    exact ⟨x, hcreate⟩
  · rintro ⟨x, hcreate⟩
    refine ⟨(sofar.1 ++ [x], sofar.2.put i.toName (.member sofar.1.length)), ?_⟩
    unfold add
    rw [hcreate, hname, Name.ofValue?_toValue]
    rfl

variable (r : Registry) (ds : List MethodDefinition)

theorem addAll_cons (d : MethodDefinition) (es : List MethodDefinition) :
    (r.building settings ds).addAll sofar (d :: es) =
      match add settings sofar d with
      | .error e => .error e
      | .ok next => (r.building settings ds).addAll next es := by
  rw [Building.addAll]
  show (add settings sofar d >>= _) = _
  cases add settings sofar d <;> rfl

variable (settings sofar) in
theorem exists_addAll_iff {es : List MethodDefinition} (hes : ∀ d ∈ es, d.IsFrozen) :
    (∃ after, (r.building settings ds).addAll sofar es = .ok after) ↔
      ∀ d ∈ es, d.isWritable = true ∧ InCallOrder (d.parameters.map Parameter.effective) := by
  induction es generalizing sofar with
  | nil => exact iff_of_true ⟨_, rfl⟩ (by simp)
  | cons d es ih =>
      obtain ⟨hd, hes⟩ := List.forall_mem_cons.1 hes
      rw [addAll_cons, List.forall_mem_cons, ← exists_add_iff settings sofar hd]
      cases add settings sofar d with
      | error e => simp
      | ok next => exact (ih next hes).trans (and_iff_right ⟨next, rfl⟩).symm

/-- What adding the members of definitions comes to. -/
structure Added (settings : Settings) (es : List MethodDefinition)
    (sofar after : List Member × Namespace) : Prop where
  members : ∃ new, after.1 = sofar.1 ++ new ∧ ∀ x ∈ new, ∃ d ∈ es, Member.create settings d = .ok x
  /-- Of the members those that are new may be held besides what was held. -/
  held : ∀ place, after.2.holds place = true → sofar.2.holds place = true ∨ sofar.1.length ≤ place
  /-- The last definition of a name has its member there. -/
  last : ∀ name d, lastNamed? es name = some d → ∃ place x,
    after.2.place? name = some place ∧ after.1[place]? = some x ∧
      Member.create settings d = .ok x
  others : ∀ name, lastNamed? es name = none → after.2.held? name = sofar.2.held? name

theorem Added.nil (settings : Settings) (sofar : List Member × Namespace) :
    Added settings [] sofar sofar where
  members := ⟨[], by simp⟩
  held _ h := .inl h
  last := by simp [lastNamed?]
  others _ _ := rfl

/-- One more definition in front, whose member is put under its name before all others. -/
theorem Added.cons {d : MethodDefinition} {es : List MethodDefinition} {x : Member} {n : Name}
    (hcreate : Member.create settings d = .ok x) (hname : Name.ofValue? d.name = some n)
    (h : Added settings es (sofar.1 ++ [x], sofar.2.put n (.member sofar.1.length)) after) :
    Added settings (d :: es) sofar after := by
  obtain ⟨⟨new, hmembers, hnew⟩, held, last, others⟩ := h
  refine ⟨⟨x :: new, by simp [hmembers], ?_⟩, fun place hplace => ?_, fun name e he => ?_,
    fun name hnone => ?_⟩
  · rw [List.forall_mem_cons]
    exact ⟨⟨d, List.mem_cons_self, hcreate⟩, fun y hy =>
      (hnew y hy).imp fun e he => ⟨List.mem_cons_of_mem d he.1, he.2⟩⟩
  · rcases held place hplace with hold | hlength
    · exact (Namespace.holds_of_put hold).imp_right fun heq => (Option.some.inj heq).le
    · exact .inr (Nat.le_trans (by simp) hlength)
  · -- the member of `d` stays under its name unless a later definition has that name too
    rw [lastNamed?_cons] at he
    cases hlast : lastNamed? es name with
    | some e' =>
        rw [hlast, Option.some_or, Option.some.injEq] at he
        exact he ▸ last name e' hlast
    | none =>
        rw [hlast, Option.none_or] at he
        split at he
        · next hnamed =>
            cases he
            refine ⟨sofar.1.length, x, ?_, by simp [hmembers], hcreate⟩
            rw [Namespace.place?, others name hlast, Namespace.held?_put,
              if_pos ((MethodDefinition.isNamed_iff hname name).1 hnamed)]
            rfl
        · cases he
  · rw [lastNamed?_cons, Option.or_eq_none_iff] at hnone
    obtain ⟨hlast, hnamed⟩ := hnone
    have hne : ¬ n.text = name.text := fun heq => by
      simp [(MethodDefinition.isNamed_iff hname name).2 heq] at hnamed
    rw [others name hlast, Namespace.held?_put, if_neg hne]

theorem addAll_added {es : List MethodDefinition}
    (h : (r.building settings ds).addAll sofar es = .ok after) :
    Added settings es sofar after := by
  induction es generalizing sofar with
  | nil =>
      cases h
      exact .nil settings _
  | cons d es ih =>
      rw [addAll_cons] at h
      cases hadd : add settings sofar d with
      | error e => simp [hadd] at h
      | ok next =>
          rw [hadd] at h
          obtain ⟨x, n, hcreate, hname, rfl⟩ := add_eq_ok hadd
          exact .cons hcreate hname (ih h)

/-! ## Making the class -/

theorem checkReserved_eq_ok {own : Namespace} (hslots : own.place? (.ofText "__slots__") = none)
    (hpath : own.place? (.ofText "__qualname__") = none)
    (hcell : own.place? (.ofText "__classcell__") = none) : r.checkReserved own = .ok () := by
  unfold checkReserved
  simp only [hslots, hpath, hcell, Option.map_none]

theorem make_eq_ok_iff (title : Name) (own : Namespace) (built : Registry) :
    r.make title own = .ok built ↔
      r.checkReserved own = .ok () ∧
        built = Registry.adopt
          { r with classes := r.classes ++
              [⟨title, pathOf title own, own.remove (.ofText "__qualname__")⟩] }
          (own.remove (.ofText "__qualname__")) r.classes.length := by
  unfold make
  cases r.checkReserved own with
  | error e => exact iff_of_false nofun nofun
  | ok u =>
      show Except.ok _ = Except.ok built ↔ _
      rw [Except.ok.injEq, eq_comm]
      exact (and_iff_right rfl).symm

/-- A class that is made stands behind all others, and owns the members that it holds. -/
theorem make_eq_ok (title : Name) {own : Namespace} (h : r.checkReserved own = .ok ()) :
    ∃ built, r.make title own = .ok built ∧
      built.classes =
        r.classes ++ [⟨title, pathOf title own, own.remove (.ofText "__qualname__")⟩] ∧
      ∀ place x, r.members[place]? = some x →
        (own.remove (.ofText "__qualname__")).holds place = true →
          built.members[place]? = some { x with owner := some r.classes.length } := by
  refine ⟨_, (r.make_eq_ok_iff title own _).2 ⟨h, rfl⟩, rfl, fun place x hx hholds => ?_⟩
  simp [adopt, List.getElem?_mapIdx, hx, hholds]

theorem adopt_members {own : Namespace} (place : Nat) {old new : List Member}
    (hr : r.members = old ++ new) (h : ∀ i, own.holds i = true → old.length ≤ i) :
    ∃ told, (r.adopt own place).members = old ++ told ∧
      ∀ x ∈ told, ∃ y ∈ new, x = y ∨ x = { y with owner := some place } := by
  let tell (i : Nat) (x : Member) : Member :=
    if own.holds i then { x with owner := some place } else x
  have hold : old.mapIdx tell = old := by
    rw [List.mapIdx_eq_iff]
    intro i
    cases hx : old[i]? with
    | none => rfl
    | some x =>
        have hi : i < old.length := (List.getElem?_eq_some_iff.1 hx).1
        have hnot : ¬ own.holds i = true := fun hholds => Nat.not_le.2 hi (h i hholds)
        exact congrArg some (if_neg hnot).symm
  refine ⟨new.mapIdx fun i => tell (i + old.length), ?_, fun x hx => ?_⟩
  · show r.members.mapIdx tell = _
    rw [hr, List.mapIdx_append, hold]
  · obtain ⟨i, hi, rfl⟩ := List.mem_mapIdx.1 hx
    refine ⟨new[i], List.getElem_mem hi, ?_⟩
    by_cases hholds : own.holds (i + old.length) = true
    · exact .inr (if_pos hholds)
    · exact .inl (if_neg hholds)

/-! ## Building -/

/-- What a class is like that was built of definitions within settings and stands at a place. -/
structure IsBuiltOf (built : Registry) (settings : Settings) (ds : List MethodDefinition)
    (place : Nat) (c : BuiltClass) : Prop where
  title : c.title = settings.className.toName
  path : c.path = settings.className.toName
  module : c.own.held? (.ofText "__module__") = some (.note (.str builtModule))
  document : c.own.held? (.ofText "__doc__") =
    some (.note (.str ("Generated stub class " ++ settings.className.text ++ ".")))
  /-- The last definition of a name has become the member there, which the class owns. -/
  member : ∀ name d, lastNamed? ds name = some d → ∃ i x, c.own.place? name = some i ∧
    built.members[i]? = some x ∧ x.definition = d ∧ x.resolver = d.resolver settings ∧
      x.bindsToClass = d.visibility.isClassLevel ∧ x.owner = some place
  /-- Under other names there are no members. -/
  only : ∀ name, lastNamed? ds name = none → c.own.place? name = none

theorem build_eq (settings : Settings) :
    r.build settings ds =
      match (r.building settings ds).addAll (r.members, settings.notes) ds with
      | .error e => .error e
      | .ok after =>
        { r with members := after.1 }.make settings.className.toName after.2 := by
  show ((r.building settings ds).addAll (r.members, settings.notes) ds >>= _) = _
  cases (r.building settings ds).addAll (r.members, settings.notes) ds <;> rfl

theorem notes_entries {settings : Settings} {e : Name × Held} (he : e ∈ settings.notes.entries) :
    e.2.place? = none := by
  simp only [Settings.notes, List.mem_cons, List.not_mem_nil, or_false] at he
  rcases he with rfl | rfl | rfl <;> rfl

theorem notes_place? (settings : Settings) (name : Name) : settings.notes.place? name = none := by
  rw [Namespace.place?, Option.bind_eq_none_iff]
  intro x hx
  obtain ⟨e, he, rfl⟩ := Option.map_eq_some_iff.1 hx
  exact notes_entries (List.mem_of_find?_eq_some he)

theorem notes_holds (settings : Settings) (place : Nat) : settings.notes.holds place = false := by
  rw [Namespace.holds, List.any_eq_false]
  intro e he
  rw [notes_entries he]
  exact Bool.false_ne_true

/-- Building a class leaves the members that were there as they are, and adds those of the
definitions. If a class owns one of them, it is the one that was built. -/
theorem build_members {ds : List MethodDefinition} {built : Registry}
    (h : r.build settings ds = .ok built) :
    built.classes.length = r.classes.length + 1 ∧
      ∃ new, built.members = r.members ++ new ∧
        ∀ x ∈ new, x.IsMadeOf settings ds r.classes.length := by
  rw [build_eq] at h
  cases hadded : (r.building settings ds).addAll (r.members, settings.notes) ds with
  | error e => simp [hadded] at h
  | ok after =>
      rw [hadded] at h
      obtain ⟨-, rfl⟩ := (make_eq_ok_iff { r with members := after.1 } _ _ _).1 h
      obtain ⟨⟨new, hmembers, hnew⟩, held, -, -⟩ := addAll_added r ds hadded
      have hheld : ∀ i, (after.2.remove (.ofText "__qualname__")).holds i = true →
          r.members.length ≤ i := fun i hi => by
        rcases held i (Namespace.holds_of_remove hi) with hnote | hlength
        · rw [notes_holds] at hnote
          cases hnote
        · exact hlength
      obtain ⟨told, htold, hall⟩ := adopt_members
        { r with members := after.1, classes := r.classes ++ [_] } r.classes.length hmembers hheld
      -- the owner of a member is the only thing about it that the class has changed
      refine ⟨by simp [adopt], told, htold, fun x hx => ?_⟩
      obtain ⟨y, hy, hxy⟩ := hall x hx
      obtain ⟨d, hd, hcreate⟩ := hnew y hy
      obtain ⟨-, -, -, howner⟩ := Member.create_eq_ok hcreate
      have hself : { y with owner := none } = y := by
        cases y
        simp only [Member.mk.injEq, true_and]
        exact howner.symm
      rcases hxy with rfl | rfl
      · refine ⟨⟨d, hd, ?_⟩, fun i hi => by simp [howner] at hi⟩
        rw [hself]
        exact hcreate
      · refine ⟨⟨d, hd, ?_⟩, fun i hi => (Option.some.inj hi).symm⟩
        exact hcreate.trans (congrArg _ hself.symm)

/-- When the members of frozen definitions are there, the class is made of them. -/
theorem make_added {ds : List MethodDefinition} (hds : ∀ d ∈ ds, d.IsFrozen)
    {after : List Member × Namespace} (h : Added settings ds (r.members, settings.notes) after) :
    ∃ built c,
      Registry.make { r with members := after.1 } settings.className.toName after.2 = .ok built ∧
      built.classes = r.classes ++ [c] ∧ built.IsBuiltOf settings ds r.classes.length c := by
  obtain ⟨members, own⟩ := after
  -- under a reserved name there is still what was there before any member
  have hreserved (text : String) (htext : HasReservedForm text) :
      own.held? (.ofText text) = settings.notes.held? (.ofText text) :=
    h.others _ (lastNamed?_reserved hds htext)
  have hplace (text : String) (htext : HasReservedForm text) :
      own.place? (.ofText text) = none := by
    rw [Namespace.place?, hreserved text htext]
    exact notes_place? settings _
  obtain ⟨built, hmake, hclasses, hmembers⟩ :=
    make_eq_ok { r with members := members } settings.className.toName
      (checkReserved_eq_ok _ (hplace _ rfl) (hplace _ rfl) (hplace _ rfl))
  have hremoved (name : Name) : (own.remove (.ofText "__qualname__")).held? name =
      if "__qualname__" = name.text then none else own.held? name :=
    own.held?_remove _ name
  refine ⟨built, _, hmake, hclasses, rfl, ?_, ?_, ?_, fun name d hlast => ?_, fun name hnone => ?_⟩
  · have hpath : settings.notes.held? (.ofText "__qualname__") =
        some (.note settings.className.toValue) := rfl
    rw [pathOf, hreserved "__qualname__" rfl, hpath]
    simp only [Name.ofValue?_toValue, Option.getD_some]
  · rw [hremoved, if_neg (by decide), hreserved "__module__" rfl]
    rfl
  · rw [hremoved, if_neg (by decide), hreserved "__doc__" rfl]
    rfl
  · have hname : ¬ "__qualname__" = name.text := fun heq => by
      rw [lastNamed?_reserved hds (heq ▸ rfl)] at hlast
      cases hlast
    obtain ⟨i, x, hi, hx, hcreate⟩ := h.last name d hlast
    have hheld : (own.remove (.ofText "__qualname__")).place? name = some i := by
      rw [Namespace.place?, hremoved, if_neg hname]
      exact hi
    obtain ⟨hdefinition, hresolver, hbinds, -⟩ := Member.create_eq_ok hcreate
    exact ⟨i, _, hheld, hmembers i x hx (Namespace.holds_of_place? hheld), hdefinition, hresolver,
      hbinds, rfl⟩
  · show ((own.remove (.ofText "__qualname__")).held? name).bind Held.place? = none
    rw [hremoved]
    split
    · rfl
    · rw [h.others name hnone]
      exact notes_place? settings name

/-- The members of frozen definitions are all that can fail, and none is lost. -/
theorem build_isBuiltOf (settings : Settings) {ds : List MethodDefinition}
    (hds : ∀ d ∈ ds, d.IsFrozen) :
    ((∃ built, r.build settings ds = .ok built) ↔
        ∀ d ∈ ds, d.isWritable = true ∧ InCallOrder (d.parameters.map Parameter.effective)) ∧
      ∀ built, r.build settings ds = .ok built →
        ∃ c, built.classes = r.classes ++ [c] ∧
          built.IsBuiltOf settings ds r.classes.length c := by
  rw [build_eq, ← exists_addAll_iff settings (r.members, settings.notes) r ds hds]
  cases hadded : (r.building settings ds).addAll (r.members, settings.notes) ds with
  | error e => simp
  | ok after =>
      obtain ⟨built, c, hmake, hbuilt⟩ := make_added r hds (addAll_added r ds hadded)
      refine ⟨iff_of_true ⟨built, hmake⟩ ⟨after, rfl⟩, fun built' hmake' => ⟨c, ?_⟩⟩
      obtain rfl : built = built' := by simpa using hmake.symm.trans hmake'
      exact hbuilt

/-- What is found by name on a class that was built of definitions. -/
theorem IsBuiltOf.visibilityOf {built : Registry} {place : Nat} {c : BuiltClass}
    {ds : List MethodDefinition} (h : built.IsBuiltOf settings ds place c) {name : Name}
    {d : MethodDefinition} (hlast : lastNamed? ds name = some d) :
    (∃ x, built.memberOf? [c] name = some x ∧ x.definition = d) ∧
      built.visibilityOf [c] name = .ok d.visibility := by
  obtain ⟨i, x, hi, hx, rfl, -⟩ := h.member name d hlast
  have hfound : built.memberOf? [c] name = some x := by
    rw [memberOf?_singleton, hi]
    exact hx
  refine ⟨⟨x, hfound, rfl⟩, ?_⟩
  rw [Registry.visibilityOf, hfound]

/-- **Classes are built of frozen definitions when these can be written and called.** Whatever was
built before: the class of frozen definitions is built exactly when each of them can be written and
its parameters stand in the order of a call in a signature. It then stands behind the other classes,
with the title, the path and the notes that its settings give it; under each name it holds the
member of the last definition of that name, bound to classes exactly when that one is of class
level, which was made for this class; and it holds no other members. The definitions of a generator
that was worked with are frozen, so this is how it builds; and when their names are distinct, each
definition is found on the class with the visibility that was declared. -/
theorem build_frozen :
    (∀ (settings : Settings) (ds : List MethodDefinition), (∀ d ∈ ds, d.IsFrozen) →
        ((∃ built, r.build settings ds = .ok built) ↔
            ∀ d ∈ ds, d.isWritable = true ∧ InCallOrder (d.parameters.map Parameter.effective)) ∧
          ∀ built, r.build settings ds = .ok built →
            ∃ c, built.classes = r.classes ++ [c] ∧
              built.IsBuiltOf settings ds r.classes.length c) ∧
      ∀ (settings : Settings) (s : GeneratorCourse),
        let g := (s.run (.new settings)).2.generator
        ((∃ built, g.build r = .ok built) ↔ ∀ d ∈ g.definitions,
            d.isWritable = true ∧ InCallOrder (d.parameters.map Parameter.effective)) ∧
          ∀ built, g.build r = .ok built →
            ∃ c, built.classes = r.classes ++ [c] ∧
              built.IsBuiltOf settings g.definitions r.classes.length c ∧
              (g.names.Nodup → ∀ d ∈ g.definitions, ∀ name, d.isNamed name = true →
                (∃ x, built.memberOf? [c] name = some x ∧ x.definition = d) ∧
                  built.visibilityOf [c] name = .ok d.visibility) := by
  refine ⟨fun settings ds hds => build_isBuiltOf r settings hds, fun settings s => ?_⟩
  intro g
  have hsettings : g.settings = settings := ((GeneratorState.new settings).run_extends s).settings
  have hfrozen : ∀ d ∈ g.definitions, d.IsFrozen :=
    (GeneratorState.run_isSound s (.new settings)).definitions
  have hbuild : g.build r = r.build settings g.definitions := by rw [Generator.build, hsettings]
  obtain ⟨hiff, hbuilt⟩ := build_isBuiltOf r settings hfrozen
  rw [hbuild]
  refine ⟨hiff, fun built hok => ?_⟩
  obtain ⟨c, hclasses, hof⟩ := hbuilt built hok
  exact ⟨c, hclasses, hof, fun hnodup d hd name hname =>
    hof.visibilityOf (lastNamed?_of_nodup hnodup hd hname)⟩

/-- Of two definitions of `label` the class holds the member of the later one. A definition in which
a default that stands for none follows another default was frozen, but no class is built of it. -/
theorem build_frozen_repeated :
    let label : Identifier := ⟨.ofText "label", by decide +kernel⟩
    let early : MethodDefinition := (MethodBuilder.empty label .publicMember).freeze
    let late : MethodDefinition :=
      ((MethodBuilder.empty label .privateClass).run
        [.parameter .optional (.str "x") (.int 1)]).1.freeze
    let unordered : MethodDefinition :=
      ((MethodBuilder.empty label .publicMember).run
        [.parameter .optional (.str "x") (.int 1),
          .parameter .optional (.str "y") (.type .noDefault)]).1.freeze
    (∃ built c, empty.build .standard [early, late] = .ok built ∧ built.classes = [c] ∧
        built.visibilityOf [c] (.ofText "label") = .ok .privateClass ∧
        c.own.place? (.ofText "__doc__") = none) ∧
      unordered.IsFrozen ∧ ¬ ∃ built, empty.build .standard [unordered] = .ok built := by
  intro label early late unordered
  have hcreate (v : Visibility) :
      MethodBuilder.create (.str "label") (.visibility v) = .ok (.empty label v) := by
    cases v <;> rfl
  have hfrozen (v : Visibility) (verbs : List Verb) :
      ((MethodBuilder.empty label v).run verbs).1.freeze.IsFrozen :=
    ⟨_, ⟨_, _, _, verbs, hcreate v, rfl⟩, rfl⟩
  have hboth : ∀ d ∈ [early, late], d.IsFrozen := by
    simpa using ⟨hfrozen .publicMember [], hfrozen .privateClass _⟩
  have hone : ∀ d ∈ [unordered], d.IsFrozen := by
    simpa using hfrozen .publicMember _
  obtain ⟨hbuilds, hbuilt⟩ := (build_frozen empty).1 .standard [early, late] hboth
  refine ⟨?_, hfrozen .publicMember _, fun hok => ?_⟩
  · have hplain : ∀ d ∈ [early, late], d.isWritable = true ∧
        ∀ p ∈ d.parameters, p.kind.hasDefault = true → p.default.isNoDefault = false := by
      decide +kernel
    obtain ⟨built, hok⟩ := hbuilds.2 fun d hd =>
      ⟨(hplain d hd).1, (hboth d hd).inCallOrder_effective (hplain d hd).2⟩
    obtain ⟨c, hclasses, hof⟩ := hbuilt built hok
    have hlast : lastNamed? [early, late] (.ofText "label") = some late := rfl
    exact ⟨built, c, hok, hclasses, (hof.visibilityOf hlast).2, hof.only _ rfl⟩
  · have hordered := (((build_frozen empty).1 .standard [unordered] hone).1.1 hok unordered
      (List.mem_singleton_self _)).2
    -- in a signature the second parameter is a required one
    have hrank : 1 ≤ 0 := List.rel_of_pairwise_cons hordered.pairwise (List.mem_singleton_self _)
    exact absurd hrank (by decide)

end Registry

end StubClass
