import StubClass.Proofs.Method.Order
import StubClass.Stub

set_option autoImplicit false

/-! # Which parameters form a signature

A signature is formed slot by slot, with three things known of the slots before: the furthest way of
passing, whether one of that way had a default, and the names. For the slots of parameters the first
two are one number, the group of the last parameter (`floor`), so that forming succeeds exactly when
the names are distinct and the groups do not fall (`scan_eq_ok_iff`). What counts are the parameters
as they are in a signature, where a default that stands for none is none. With the receiver in front
that is well-formedness, `fullSignature_eq_ok_iff`. -/

namespace StubClass

namespace Parameter

/-! ## Parameters in a signature -/

@[simp] theorem effective_name (p : Parameter) : p.effective.name = p.name :=
  rfl

@[simp] theorem effective_kind (p : Parameter) : p.effective.kind = p.effectiveKind :=
  rfl

theorem isKeyword_effectiveKind (p : Parameter) :
    p.effectiveKind.isKeyword = p.kind.isKeyword := by
  unfold effectiveKind
  split
  · cases p.kind <;> rfl
  · rfl

/-- Only a default that stands for none makes a difference. -/
theorem effective_eq_self {p : Parameter} (h : p.default.isNoDefault = false) :
    p.effective = p := by
  simp [effective, effectiveKind, h]

@[simp] theorem effectiveKind_effective (p : Parameter) :
    p.effective.effectiveKind = p.effectiveKind := by
  simp only [effective, effectiveKind]
  split
  · cases p.kind <;> rfl
  · rfl

theorem slot_effective (p : Parameter) : p.effective.slot = p.slot := by
  simp only [slot, effectiveKind_effective, effective_kind, isKeyword_effectiveKind,
    effective_name]
  rfl

theorem map_effective_names (ps : List Parameter) :
    ((ps.map effective).map fun p => p.name.text) = ps.map fun p => p.name.text := by
  rw [List.map_map]
  rfl

/-- Among the parameters, only those whose applied default stands for none are others in a
signature. -/
theorem map_effective_eq_self {ps : List Parameter}
    (h : ∀ p ∈ ps, p.kind.hasDefault = true → p.default.isNoDefault = false) :
    ps.map effective = ps := by
  have hself : ∀ p ∈ ps, p.effective = id p := fun p hp => by
    cases hdefault : p.default.isNoDefault with
    | false => exact effective_eq_self hdefault
    | true =>
        -- the default stands for none, but is not applied anyway
        have hkind : p.kind.hasDefault ≠ true := fun hk => by simpa [hdefault] using h p hp hk
        obtain ⟨kind, name, default⟩ := p
        cases kind <;> simp_all [effective, effectiveKind, ParameterKind.withoutDefault,
          ParameterKind.hasDefault]
  rw [List.map_congr_left hself, List.map_id]

end Parameter

namespace Signature

/-! ## The floor -/

/-- The least group that a parameter may have behind what was seen. -/
def floor (top : Passing) (defaulted : Bool) : Nat :=
  match top with
  | .positionalOnly => 0
  | .positional => if defaulted then 1 else 0
  | .keywordOnly => 2

/-- Whether a slot of the way reached so far had a default, once one more slot was seen. -/
def defaultedBehind (top : Passing) (defaulted : Bool) (s : Slot) : Bool :=
  defaulted && s.passing == top || s.passing != .keywordOnly && s.default.isSome

/-- The two checks of the order let a parameter pass when its group is not below the floor. -/
theorem below_floor_iff (top : Passing) (defaulted : Bool) (p : Parameter) :
    (p.slot.passing.rank < top.rank ∨ (p.slot.passing != .keywordOnly && p.slot.default.isNone
        && (defaulted && p.slot.passing == top)) = true) ↔
      p.effectiveKind.rank < floor top defaulted := by
  unfold Parameter.slot floor
  rw [← p.isKeyword_effectiveKind]
  cases p.effectiveKind <;> cases top <;> cases defaulted <;>
    simp [ParameterKind.isKeyword, ParameterKind.hasDefault, ParameterKind.rank, Passing.rank]

theorem floor_behind {top : Passing} {defaulted : Bool} {p : Parameter}
    (h : floor top defaulted ≤ p.effectiveKind.rank) :
    floor p.slot.passing (defaultedBehind top defaulted p.slot) = p.effectiveKind.rank := by
  unfold floor defaultedBehind Parameter.slot at *
  rw [← p.isKeyword_effectiveKind]
  cases hk : p.effectiveKind <;> cases top <;> cases defaulted <;>
    simp_all [ParameterKind.isKeyword, ParameterKind.hasDefault, ParameterKind.rank]

/-! ## Forming -/

/-- One more parameter passes when its group is not below the floor and its name is new. -/
theorem scan_cons_eq_ok_iff (top : Passing) (defaulted : Bool) (seen : List Name) (p : Parameter)
    (rest : List Slot) :
    scan top defaulted seen (p.slot :: rest) = .ok () ↔
      floor top defaulted ≤ p.effectiveKind.rank ∧ (∀ n ∈ seen, n.text ≠ p.name.text) ∧
        scan p.slot.passing (defaultedBehind top defaulted p.slot) (p.name.toName :: seen) rest
          = .ok () := by
  have hfloor := below_floor_iff top defaulted p
  have hseen : seen.any (Name.same p.slot.name.toName) = true ↔
      ∃ n ∈ seen, n.text = p.name.text := by
    simp only [List.any_eq_true, Name.same_iff]
    exact exists_congr fun n => and_congr_right fun _ => eq_comm
  rw [scan]
  split
  · next hrank =>
      have hlt := hfloor.1 (.inl hrank)
      exact iff_of_false (by simp) fun h => absurd h.1 (Nat.not_le.2 hlt)
  · next hrank =>
      simp only
      split
      · next hdefault =>
          have hlt := hfloor.1 (.inr hdefault)
          exact iff_of_false (by simp) fun h => absurd h.1 (Nat.not_le.2 hlt)
      · next hdefault =>
          have hle : floor top defaulted ≤ p.effectiveKind.rank :=
            Nat.not_lt.1 fun hlt => (hfloor.2 hlt).elim hrank hdefault
          split
          · next hany =>
              obtain ⟨n, hn, heq⟩ := hseen.1 hany
              exact iff_of_false (by simp) fun h => h.2.1 n hn heq
          · next hany =>
              have hnew : ∀ n ∈ seen, n.text ≠ p.name.text :=
                fun n hn heq => hany (hseen.2 ⟨n, hn, heq⟩)
              exact ⟨fun h => ⟨hle, hnew, h⟩, fun h => h.2.2⟩

/-- Parameters pass when their groups neither fall nor start below the floor, and when their names
are distinct and new. -/
theorem scan_eq_ok_iff (ps : List Parameter) (top : Passing) (defaulted : Bool)
    (seen : List Name) :
    scan top defaulted seen (ps.map Parameter.slot) = .ok () ↔
      (∀ p ∈ ps, floor top defaulted ≤ p.effectiveKind.rank) ∧
        (ps.map Parameter.effective).Pairwise Parameter.NotBehind ∧
        (ps.map fun p => p.name.text).Nodup ∧ ∀ p ∈ ps, ∀ n ∈ seen, n.text ≠ p.name.text := by
  induction ps generalizing top defaulted seen with
  | nil => simp [scan]
  | cons p ps ih =>
      rw [List.map_cons, scan_cons_eq_ok_iff, ih]
      simp only [List.forall_mem_cons, List.pairwise_cons, List.map_cons, List.nodup_cons,
        List.mem_map, not_exists, not_and, Parameter.NotBehind, forall_exists_index, and_imp,
        forall_apply_eq_imp_iff₂, Parameter.effective_kind]
      constructor
      · rintro ⟨hle, hnew, hfloor, hpairs, hnodup, hnames⟩
        rw [floor_behind hle] at hfloor
        refine ⟨⟨hle, fun q hq => Nat.le_trans hle (hfloor q hq)⟩, ⟨hfloor, hpairs⟩,
          ⟨fun q hq heq => (hnames q hq).1 heq.symm, hnodup⟩, hnew, fun q hq => (hnames q hq).2⟩
      · rintro ⟨⟨hle, -⟩, ⟨hfloor, hpairs⟩, ⟨hdistinct, hnodup⟩, hnew, hnames⟩
        refine ⟨hle, hnew, ?_, hpairs, hnodup,
          fun q hq => ⟨fun heq => hdistinct q hq heq.symm, hnames q hq⟩⟩
        rw [floor_behind hle]
        exact hfloor

theorem ofSlots_eq_ok_iff (slots : List Slot) (s : Signature) :
    ofSlots slots = .ok s ↔ scan .positionalOnly false [] slots = .ok () ∧ s = ⟨slots⟩ := by
  unfold ofSlots
  cases scan .positionalOnly false [] slots with
  | error fault => simp [Except.map]
  | ok u => simp [Except.map, eq_comm]

end Signature

/-! ## The signatures of a definition -/

namespace MethodDefinition

theorem signature_eq_ok_iff (d : MethodDefinition) (s : Signature) :
    d.signature = .ok s ↔
      (InCallOrder (d.parameters.map Parameter.effective) ∧
        (d.parameters.map fun p => p.name.text).Nodup) ∧
        s = ⟨d.parameters.map Parameter.slot⟩ := by
  rw [signature, Signature.ofSlots_eq_ok_iff, Signature.scan_eq_ok_iff, inCallOrder_iff_pairwise]
  simp [Signature.floor]

/-- Parameters form a signature behind a receiver when they are well formed there. -/
theorem fullSignature_eq_ok_iff (d : MethodDefinition) (s : Signature) :
    d.fullSignature = .ok s ↔
      WellFormed d.visibility (d.parameters.map Parameter.effective) ∧
        s = ⟨d.visibility.receiverSlot :: d.parameters.map Parameter.slot⟩ := by
  have hreceiver (rest : List Slot) :
      Signature.scan .positionalOnly false [] (d.visibility.receiverSlot :: rest) =
        Signature.scan .positionalOnly false [d.visibility.receiver.toName] rest := by
    simp [Signature.scan, Visibility.receiverSlot, Passing.rank]
  rw [fullSignature, Signature.ofSlots_eq_ok_iff, hreceiver, Signature.scan_eq_ok_iff]
  refine and_congr_left fun _ => ?_
  constructor
  · rintro ⟨-, horder, hnodup, hnames⟩
    exact
      { valid := fun p _ => p.name.valid
        distinct := (Parameter.map_effective_names _).symm ▸ hnodup
        notReceiver := List.forall_mem_map.2 fun p hp heq =>
          hnames p hp _ (List.mem_singleton_self _) heq.symm
        inOrder := inCallOrder_of_pairwise horder }
  · rintro ⟨-, distinct, notReceiver, inOrder⟩
    rw [Parameter.map_effective_names] at distinct
    refine ⟨by simp [Signature.floor], inOrder.pairwise, distinct, fun p hp n hn => ?_⟩
    rw [List.mem_singleton.1 hn]
    exact fun heq => notReceiver p.effective (List.mem_map_of_mem hp) heq.symm

end MethodDefinition

/-- What is well formed in a signature, told of the parameters as they were declared. -/
theorem wellFormed_effective_iff (v : Visibility) (ps : List Parameter) :
    WellFormed v (ps.map Parameter.effective) ↔
      InCallOrder (ps.map Parameter.effective) ∧ (ps.map fun p => p.name.text).Nodup ∧
        ∀ p ∈ ps, p.name.text ≠ v.receiver.text := by
  constructor
  · rintro ⟨-, distinct, notReceiver, inOrder⟩
    rw [Parameter.map_effective_names] at distinct
    exact ⟨inOrder, distinct, fun p hp => notReceiver p.effective (List.mem_map_of_mem hp)⟩
  · rintro ⟨inOrder, distinct, notReceiver⟩
    rw [← Parameter.map_effective_names] at distinct
    refine ⟨fun p _ => p.name.valid, distinct, fun p hp => ?_, inOrder⟩
    obtain ⟨q, hq, rfl⟩ := List.mem_map.1 hp
    exact notReceiver q hq

theorem MethodDefinition.written_eq_ok_iff (d : MethodDefinition) (text : String) :
    d.written = .ok text ↔ d.isWritable = true ∧ text = d.declaration := by
  unfold MethodDefinition.written
  split
  · next hd => simp [hd, eq_comm]
  · next hd => simp [hd]

/-- A definition becomes a member when it has a text for its name, can be written, and has
parameters that are well formed in a signature. -/
theorem Stub.create_eq_ok_iff (d : MethodDefinition) (s : Stub) :
    Stub.create d = .ok s ↔
      ((∃ text, d.name.text? = some text) ∧ d.isWritable = true ∧
        WellFormed d.visibility (d.parameters.map Parameter.effective)) ∧
        s = ⟨d, ⟨d.parameters.map Parameter.slot⟩⟩ := by
  have hwritten := d.written_eq_ok_iff
  have hsignature := d.signature_eq_ok_iff
  have hfull := d.fullSignature_eq_ok_iff
  -- the signature with the receiver is looked at last, and needs all that the other one needs
  have hless : WellFormed d.visibility (d.parameters.map Parameter.effective) →
      InCallOrder (d.parameters.map Parameter.effective) ∧
        (d.parameters.map fun p => p.name.text).Nodup := fun h =>
    ⟨h.inOrder, ((wellFormed_effective_iff _ _).1 h).2.1⟩
  unfold create
  split
  · next fault hfault =>
      have hno : ¬ WellFormed d.visibility (d.parameters.map Parameter.effective) := fun h => by
        simpa [hfault] using (hsignature _).2 ⟨hless h, rfl⟩
      simp [hno]
  · next signature hok =>
      obtain ⟨-, rfl⟩ := (hsignature signature).1 hok
      split
      · next hname => simp [hname]
      · next text hname =>
          split
          · next e hunwritten =>
              have hno : ¬ d.isWritable = true := fun h => by
                simpa [hunwritten] using (hwritten _).2 ⟨h, rfl⟩
              simp [hno]
          · next declaration hdeclaration =>
              have hw := ((hwritten _).1 hdeclaration).1
              split
              · next fault hfault =>
                  have hno : ¬ WellFormed d.visibility (d.parameters.map Parameter.effective) :=
                    fun h => by simpa [hfault] using (hfull _).2 ⟨h, rfl⟩
                  simp [hno]
              · next full hok =>
                  have hwf := ((hfull full).1 hok).1
                  simp [hname, hw, hwf, eq_comm]

end StubClass
