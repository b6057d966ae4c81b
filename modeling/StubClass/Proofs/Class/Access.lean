import StubClass.Proofs.Class.Code
import StubClass.Proofs.Class.Descendants

set_option autoImplicit false

/-! # Who may call a member

A call of a member that is not public is let through when the code of the caller is behind something
that one of the allowed classes holds, and refused otherwise, unless an object has a hand in the
answers: `RaisingLandscape.checkAccess_iff`. The search for the code looks at the classes one after
another and stops at the first that has it; what it comes to is `classes_comesTo` for the classes
and `codeBehind_findsOr` for what they hold. -/

namespace StubClass

open Relation

/-! ## Same code -/

namespace Code

theorem sameAll_iff {ks ls : List Code}
    (h : ∀ k ∈ ks, ∀ l, k.same l = true ↔ k = l) : same.sameAll ks ls = true ↔ ks = ls := by
  induction ks generalizing ls with
  | nil => cases ls <;> simp [same.sameAll]
  | cons k ks ih =>
      cases ls with
      | nil => simp [same.sameAll]
      | cons l ls =>
          rw [same.sameAll, Bool.and_eq_true, h k List.mem_cons_self,
            ih fun k' hk' => h k' (List.mem_cons_of_mem _ hk'), List.cons.injEq]

theorem same_iff (k l : Code) : k.same l = true ↔ k = l := by
  induction hn : k.count using Nat.strong_induction_on generalizing k l with
  | _ n ih =>
      obtain ⟨text, ks⟩ := k
      obtain ⟨text', ls⟩ := l
      have hks : ∀ k ∈ ks, ∀ l, k.same l = true ↔ k = l := fun k hk l =>
        ih k.count (hn ▸ count_lt_of_contains hk) k l rfl
      rw [same, Bool.and_eq_true, beq_iff_eq, sameAll_iff hks, mk.injEq]

end Code

namespace Landscape

variable (L : Landscape)

/-! ## Allowed classes -/

/-- A class is derived from another one by one step. -/
def Derives (c k : Fin L.size) : Prop :=
  k ∈ (L.facet c).derived

/-- The classes whose code may call a member. -/
def IsAllowed (d : MethodDefinition) (owner c : Fin L.size) : Prop :=
  c = owner ∨ d.visibility = .protectedMember ∧ ReflTransGen L.Derives owner c

/-- Whether a member may be called: it is public, or the caller's code is behind something that an
allowed class holds. -/
def MayCall (d : MethodDefinition) (owner : Fin L.size) (caller : Option Code) : Prop :=
  d.visibility.isPublic = true ∨ ∃ k, caller = some k ∧
    ∃ c, L.IsAllowed d owner c ∧ ∃ x ∈ (L.facet c).members, L.IsBehind x k

end Landscape

namespace RaisingLandscape

variable (R : RaisingLandscape)

/-! ## Errors within reach -/

/-- An error that an object raises when the check of a call asks it, or that comes of comparing two
classes. -/
inductive RaisesWithin (d : MethodDefinition) (owner : Fin R.size) (e : Error) : Prop where
  | title (h : R.raised? .title owner = some e)
  | derived {c : Fin R.size} (hd : d.visibility = .protectedMember) (hc : R.IsAllowed d owner c)
      (h : R.raised? .derived c = some e)
  | equal {b c : Fin R.size} (hb : R.IsAllowed d owner b) (hc : R.IsAllowed d owner c)
      (hne : b ≠ c) (h : R.equal b c = .error e)
  | members {c : Fin R.size} (hc : R.IsAllowed d owner c) (h : R.raised? .members c = some e)
  | behind {c x : Fin R.size} (hc : R.IsAllowed d owner c) (hx : x ∈ (R.facet c).members)
      (h : R.RaisesBehind x e)

/-- An allowed class has a member around which layers go on without an end. -/
def IsEndless (d : MethodDefinition) (owner : Fin R.size) : Prop :=
  ∃ c, R.IsAllowed d owner c ∧ ∃ x ∈ (R.facet c).members, ¬ R.IsSettled x

/-- No allowed class counts as equal to another one. -/
def TellsApart (d : MethodDefinition) (owner : Fin R.size) : Prop :=
  ∀ b c, R.IsAllowed d owner b → R.IsAllowed d owner c → R.equal b c = .ok true → b = c

/-- The error that the check of a call ends in: that of refusing a call that may not be made, one
that is raised within reach, or that of layers without an end. -/
def EndsIn (d : MethodDefinition) (owner : Fin R.size) (caller : Option Code) (e : Error) : Prop :=
  (e = .access d.name d.visibility (R.facet owner).title ∧
      (R.TellsApart d owner → ¬ R.MayCall d owner caller)) ∨
    R.RaisesWithin d owner e ∨ e = .tooManyLayers ∧ R.IsEndless d owner

/-- Whatever the check of a call asks shows what it is: no error is raised, and the allowed classes
are told apart. -/
structure AnswersPlainly (d : MethodDefinition) (owner : Fin R.size) : Prop where
  raises : ∀ e, ¬ R.RaisesWithin d owner e
  tellsApart : R.TellsApart d owner

variable {R} {d : MethodDefinition} {owner : Fin R.size}

/-! ## Classes that are looked at -/

theorem answer_comesTo {β : Type} (q : Question) (x : Fin R.size) (shown : β) :
    ComesTo (R.answer q x shown) (· = shown) fun e => R.raised? q x = some e := by
  rcases R.answer_cases q x shown with h | ⟨e, he, h⟩
  · exact .inl ⟨shown, h, rfl⟩
  · exact .inr ⟨e, h, he⟩

/-- A class is found among others that it is told apart from when it is one of them. -/
theorem isAmong_comesTo (x : Fin R.size) (ys : List (Fin R.size)) :
    ComesTo (R.isAmong x ys)
      (fun known => (∀ y ∈ ys, R.equal y x = .ok true → y = x) → known = ys.contains x)
      fun e => ∃ y ∈ ys, y ≠ x ∧ R.equal y x = .error e := by
  induction ys with
  | nil => exact .inl ⟨false, rfl, fun _ => rfl⟩
  | cons y ys ih =>
      simp only [isAmong, List.contains_cons, List.forall_mem_cons]
      by_cases hyx : y = x
      · rw [if_pos hyx, hyx, beq_self_eq_true]
        exact .inl ⟨true, rfl, fun _ => rfl⟩
      · rw [if_neg hyx, beq_eq_false_iff_ne.2 (Ne.symm hyx)]
        cases hequal : R.equal y x with
        | error e => exact .inr ⟨e, rfl, y, List.mem_cons_self, hyx, hequal⟩
        | ok same =>
            cases same with
            | true => exact .inl ⟨true, rfl, fun h => absurd (h.1 rfl) hyx⟩
            | false =>
                exact ih.imp (fun known h htold => h htold.2)
                  fun e ⟨z, hz, h⟩ => ⟨z, List.mem_cons_of_mem _ hz, h⟩

variable (R d owner) in
/-- The classes that are looked at: for a protected member the descendants of the owner. -/
theorem classes_eq :
    (R.gate d owner).classes owner =
      if d.visibility = .protectedMember then
        descendants (R.gate d owner).below (R.gate d owner).isAmong (R.size + R.codeCount + 1) owner
      else .ok [owner] := by
  show (if (d.visibility == .protectedMember) = true then
    descendants (R.gate d owner).below (R.gate d owner).isAmong (R.size + R.codeCount + 1) owner
    else Except.ok [owner]) = _
  simp only [beq_iff_eq]

theorem isAllowed_of_derives (hd : d.visibility = .protectedMember) {c k : Fin R.size}
    (hc : R.IsAllowed d owner c) (hk : k ∈ (R.facet c).derived) : R.IsAllowed d owner k := by
  rcases hc with rfl | ⟨-, hc⟩
  · exact .inr ⟨hd, .single hk⟩
  · exact .inr ⟨hd, hc.tail hk⟩

variable (R d owner) in
/-- Only allowed classes are looked at, and where they are told apart all of them are. -/
theorem classes_comesTo :
    ComesTo ((R.gate d owner).classes owner)
      (fun cs => (∀ c ∈ cs, R.IsAllowed d owner c) ∧
        (R.TellsApart d owner → ∀ c, R.IsAllowed d owner c → c ∈ cs)) (R.RaisesWithin d owner) := by
  rw [classes_eq]
  by_cases hd : d.visibility = .protectedMember
  · rw [if_pos hd]
    obtain ⟨all, hrun, hlisted⟩ : ∃ all, descendants (m := Except Error)
        (fun c => pure (R.facet c).derived) (fun x xs => pure (xs.contains x)) _ owner = .ok all ∧
          Listed (fun c => (R.facet c).derived) owner all all.length :=
      descendants_pure (fun _ => R.length_le_size) owner
        (show R.size < R.size + R.codeCount + 1 by omega)
    have hasked : ∀ c, R.IsAllowed d owner c →
        ComesTo ((R.gate d owner).below c) (· = (R.facet c).derived) (R.RaisesWithin d owner) :=
      fun c hc => (answer_comesTo .derived c _).imp (fun _ h => h) fun e he => .derived hd hc he
    have hamong : ∀ x xs, R.IsAllowed d owner x → (∀ y ∈ xs, R.IsAllowed d owner y) →
        ComesTo ((R.gate d owner).isAmong x xs)
          (fun known => R.TellsApart d owner → known = xs.contains x) (R.RaisesWithin d owner) :=
      fun x xs hx hxs => (isAmong_comesTo x xs).imp
        (fun known h htold => h fun y hy => htold y x (hxs y hy) hx)
        fun e ⟨y, hy, hne, he⟩ => .equal (hxs y hy) hx hne he
    have hstart : ∀ c ∈ [owner], R.IsAllowed d owner c := List.forall_mem_singleton.2 (.inl rfl)
    refine (descendantsFrom_comesTo hasked (fun c hc k hk => isAllowed_of_derives hd hc hk) hamong
      _ hstart 0).imp (fun cs h => ⟨h.1, fun htold c hc => ?_⟩) fun _ h => h
    obtain rfl : all = cs := Except.ok.inj (hrun.symm.trans (h.2 htold))
    rw [hlisted.mem_iff (Nat.le_refl _) c]
    rcases hc with rfl | ⟨-, hc⟩
    · exact .refl
    · exact hc
  · rw [if_neg hd]
    refine .inl ⟨[owner], rfl, List.forall_mem_singleton.2 (.inl rfl), fun _ c hc => ?_⟩
    exact List.mem_singleton.2 (hc.resolve_right fun ⟨hprotected, _⟩ => hd hprotected)

/-! ## The check -/

theorem codeOfClass_findsOr (c : Fin R.size) :
    FindsOr ((R.gate d owner).codeOfClass c) (fun k => ∃ x ∈ (R.facet c).members, R.IsBehind x k)
      fun e => R.raised? .members c = some e ∨ ∃ x ∈ (R.facet c).members,
        R.RaisesBehind x e ∨ e = .tooManyLayers ∧ ¬ R.IsSettled x := by
  show ComesTo (R.answer .members c (R.facet c).members >>= fun members =>
    collect (R.inspection.codeBehind (R.size + R.codeCount + 1) (R.size + 1)) members) _ _
  refine ((answer_comesTo .members c (R.facet c).members).imp (fun _ h => h) fun e => .inl).bind ?_
  rintro members rfl
  exact (collect_findsOr fun x _ => R.codeBehind_findsOr x).imp (fun _ => Iff.rfl) fun e => .inr

/-- Looking for a piece of code among that of a class stops at the first piece that is the same. -/
theorem anyTrue_eq (caller : Code) (ks : List Code) :
    ∃ b, anyHasCode.anyTrue (fun k => (.ok (k.same caller) : Except Error Bool)) ks = .ok b ∧
      (b = true ↔ caller ∈ ks) := by
  induction ks with
  | nil => exact ⟨false, rfl, by simp⟩
  | cons k ks ih =>
      obtain ⟨b, hrun, hb⟩ := ih
      show ∃ b, (if k.same caller = true then pure true else anyHasCode.anyTrue _ ks) = _ ∧ _
      cases hk : k.same caller with
      | true =>
          refine ⟨true, rfl, iff_of_true rfl ?_⟩
          rw [(Code.same_iff k caller).1 hk]
          exact List.mem_cons_self
      | false =>
          have hne : caller ≠ k := fun heq => by
            rw [(Code.same_iff k caller).2 heq.symm] at hk
            cases hk
          exact ⟨b, hrun, by rw [hb, List.mem_cons, or_iff_right hne]⟩

/-- Looking for a piece of code among those of some classes tells whether one has it, or ends in the
error of one of them. -/
theorem anyHasCode_comesTo {α : Type} {codeOf : α → Except Error (List Code)}
    {P : α → Code → Prop} {E : α → Error → Prop} (caller : Code) {cs : List α}
    (h : ∀ c ∈ cs, FindsOr (codeOf c) (P c) (E c)) :
    ComesTo (anyHasCode codeOf (fun k => .ok (k.same caller)) cs)
      (fun b => b = true ↔ ∃ c ∈ cs, P c caller) fun e => ∃ c ∈ cs, E c e := by
  induction cs with
  | nil => exact .inl ⟨false, rfl, by simp⟩
  | cons c cs ih =>
      obtain ⟨hc, hcs⟩ := List.forall_mem_cons.1 h
      simp only [List.exists_mem_cons_iff]
      refine (hc.imp (fun _ => Iff.rfl) fun e => .inl).bind fun found hfound => ?_
      obtain ⟨here, hhere, hb⟩ := anyTrue_eq caller found
      rw [hfound] at hb
      rw [hhere]
      -- the search stops at the first class that has the code, so later errors do not count then
      cases here with
      | true => exact .inl ⟨true, rfl, iff_of_true rfl (.inl (hb.1 rfl))⟩
      | false =>
          have hnot : ¬ P c caller := fun hP => by simpa using hb.2 hP
          exact (ih hcs).imp (fun b hb => by rw [hb, or_iff_right hnot]) fun e => .inr

/-- The check of a caller of a member that is not public, once the classes are known. -/
theorem checkAccess_some (hd : d.visibility.isPublic = false) (k : Code) :
    R.checkAccess d owner (some k) = (R.gate d owner).classes owner >>= fun cs =>
      anyHasCode (R.gate d owner).codeOfClass (fun l => .ok (l.same k)) cs >>= fun found =>
        if found = true then .ok () else (R.gate d owner).refuse := by
  show (if d.visibility.isPublic = true then pure () else _) = _
  rw [hd]
  rfl

theorem checkAccess_none (hd : d.visibility.isPublic = false) :
    R.checkAccess d owner none = (R.gate d owner).refuse := by
  show (if d.visibility.isPublic = true then pure () else _) = _
  rw [hd]
  rfl

theorem checkAccess_of_public (hd : d.visibility.isPublic = true) (caller : Option Code) :
    R.checkAccess d owner caller = .ok () := by
  cases caller <;>
  · show (if d.visibility.isPublic = true then pure () else _) = _
    rw [hd]
    rfl

theorem refuse_comesTo {caller : Option Code}
    (h : R.TellsApart d owner → ¬ R.MayCall d owner caller) {P : Unit → Prop} :
    ComesTo (R.gate d owner).refuse P (R.EndsIn d owner caller) := by
  refine ((answer_comesTo .title owner (R.facet owner).title).imp (fun _ h => h)
    fun e htitle => .inr (.inl (.title htitle))).bind ?_
  rintro title rfl
  exact .inr ⟨_, rfl, .inl ⟨rfl, h⟩⟩

theorem refuse_eq (h : R.raised? .title owner = none) :
    (R.gate d owner).refuse = .error (.access d.name d.visibility (R.facet owner).title) := by
  show (R.answer .title owner (R.facet owner).title >>= fun title => _) = _
  rw [answer, h]
  rfl

theorem mayCall_some_iff (hd : d.visibility.isPublic = false) (k : Code) :
    R.MayCall d owner (some k) ↔
      ∃ c, R.IsAllowed d owner c ∧ ∃ x ∈ (R.facet c).members, R.IsBehind x k := by
  simp only [Landscape.MayCall, hd, Bool.false_eq_true, false_or, Option.some.injEq,
    exists_eq_left']

/-- A call that is let through may be made, and one that is refused as such may not, as long as
classes are told apart. -/
theorem checkAccess_comesTo (hd : d.visibility.isPublic = false) (caller : Option Code) :
    ComesTo (R.checkAccess d owner caller) (fun _ => R.MayCall d owner caller)
      (R.EndsIn d owner caller) := by
  cases caller with
  | none =>
      rw [checkAccess_none hd]
      exact refuse_comesTo fun _ => by simp [Landscape.MayCall, hd]
  | some k =>
      rw [checkAccess_some hd]
      refine ((R.classes_comesTo d owner).imp (fun _ h => h) fun e => .inr ∘ .inl).bind
        fun cs hcs => ?_
      refine ((anyHasCode_comesTo k fun c _ => codeOfClass_findsOr c).imp (fun _ h => h) ?_).bind
        fun found hfound => ?_
      · rintro e ⟨c, hc, hmembers | ⟨x, hx, hraises | ⟨rfl, hunsettled⟩⟩⟩
        · exact .inr (.inl (.members (hcs.1 c hc) hmembers))
        · exact .inr (.inl (.behind (hcs.1 c hc) hx hraises))
        · exact .inr (.inr ⟨rfl, c, hcs.1 c hc, x, hx, hunsettled⟩)
      · cases found with
        | true =>
            obtain ⟨c, hc, hbehind⟩ := hfound.1 rfl
            exact .inl ⟨(), rfl, (mayCall_some_iff hd k).2 ⟨c, hcs.1 c hc, hbehind⟩⟩
        | false =>
            refine refuse_comesTo fun htold hmay => ?_
            obtain ⟨c, hc, hbehind⟩ := (mayCall_some_iff hd k).1 hmay
            exact Bool.false_ne_true (hfound.2 ⟨c, hcs.2 htold c hc, hbehind⟩)

/-- Where the answers are plain, a caller is let through when it may call and refused when not, or
the check goes too deep. -/
theorem AnswersPlainly.checkAccess_cases (h : R.AnswersPlainly d owner)
    (hd : d.visibility.isPublic = false) (caller : Option Code) :
    (R.checkAccess d owner caller = .ok () ∧ R.MayCall d owner caller) ∨
      (R.checkAccess d owner caller =
          .error (.access d.name d.visibility (R.facet owner).title) ∧
        ¬ R.MayCall d owner caller) ∨
      R.checkAccess d owner caller = .error .tooManyLayers ∧ R.IsEndless d owner := by
  rcases R.checkAccess_comesTo hd caller with
    ⟨_, hrun, hmay⟩ | ⟨e, hrun, ⟨rfl, hnot⟩ | hraises | ⟨rfl, hendless⟩⟩
  · exact .inl ⟨hrun, hmay⟩
  · exact .inr (.inl ⟨hrun, hnot h.tellsApart⟩)
  · exact absurd hraises (h.raises e)
  · exact .inr (.inr ⟨hrun, hendless⟩)

/-- Some code that calls is let through when it may and refused when it may not, once the answers
are plain and layers come to an end. -/
theorem checkAccess_caller {caller : Option Code}
    (h : d.visibility.isPublic = false → R.AnswersPlainly d owner ∧ ¬ R.IsEndless d owner) :
    (R.checkAccess d owner caller = .ok () ↔ R.MayCall d owner caller) ∧
      (R.checkAccess d owner caller =
        .error (.access d.name d.visibility (R.facet owner).title) ↔
          ¬ R.MayCall d owner caller) := by
  cases hd : d.visibility.isPublic with
  | true =>
      have hmay : R.MayCall d owner caller := .inl hd
      simp [checkAccess_of_public hd caller, hmay]
  | false =>
      obtain ⟨hanswers, hends⟩ := h hd
      rcases hanswers.checkAccess_cases hd caller with ⟨hrun, hmay⟩ | ⟨hrun, hmay⟩ | ⟨-, hendless⟩
      · simp [hrun, hmay]
      · simp [hrun, hmay]
      · exact absurd hendless hends

variable (R d owner) in
/-- **Access is granted to the code of the allowed classes and to nobody else.** The check of a call
always comes to an end. A call that is let through may be made. One that is not let through is
refused with an error about the member and its owner, and then it may not be made, as long as no
allowed class counts as equal to another one; or an object raises an error of its own when it is
asked; or layers go on without an end. Where nothing like that is within reach, a call is let
through just when it may be made, and refused else. The classes may be derived from each other in
any way, and objects may wrap each other in circles. -/
theorem checkAccess_iff (caller : Option Code) :
    (R.checkAccess d owner caller = .ok () → R.MayCall d owner caller) ∧
      (∀ e, R.checkAccess d owner caller = .error e → d.visibility.isPublic = false ∧
        ((e = .access d.name d.visibility (R.facet owner).title ∧
            (R.TellsApart d owner → ¬ R.MayCall d owner caller)) ∨
          R.RaisesWithin d owner e ∨ e = .tooManyLayers ∧ R.IsEndless d owner)) ∧
      ((d.visibility.isPublic = false → R.raised? .title owner = none ∧
          (caller.isSome = true → R.AnswersPlainly d owner ∧ ¬ R.IsEndless d owner)) →
        (R.checkAccess d owner caller = .ok () ↔ R.MayCall d owner caller) ∧
          (R.checkAccess d owner caller =
            .error (.access d.name d.visibility (R.facet owner).title) ↔
              ¬ R.MayCall d owner caller)) := by
  cases hd : d.visibility.isPublic with
  | true =>
      have hmay : R.MayCall d owner caller := .inl hd
      simp [checkAccess_of_public hd caller, hmay]
  | false =>
      refine ⟨fun hok => ?_, fun e he => ⟨rfl, ?_⟩, fun hplain => ?_⟩
      · rcases R.checkAccess_comesTo hd caller with ⟨_, _, hmay⟩ | ⟨e, he, -⟩
        · exact hmay
        · cases hok.symm.trans he
      · rcases R.checkAccess_comesTo hd caller with ⟨_, hok, -⟩ | ⟨e', he', h⟩
        · cases hok.symm.trans he
        · cases he'.symm.trans he
          exact h
      · obtain ⟨htitle, hsome⟩ := hplain rfl
        cases caller with
        | none =>
            have hnot : ¬ R.MayCall d owner none := by simp [Landscape.MayCall, hd]
            rw [checkAccess_none hd, refuse_eq htitle]
            simp [hnot]
        | some k => exact checkAccess_caller fun _ => hsome rfl

end RaisingLandscape

namespace Landscape

variable (L : Landscape)

/-! ## Plain answers -/

theorem isAmong_eq (d : MethodDefinition) (owner : Fin L.size) :
    (L.gate d owner).isAmong = fun x xs => pure (xs.contains x) := by
  funext x xs
  show L.plain.isAmong x xs = _
  rcases RaisingLandscape.isAmong_comesTo (R := L.plain) x xs with
    ⟨known, hrun, hknown⟩ | ⟨e, -, y, -, -, herror⟩
  · have hsame (y z : Fin L.size) (hequal : L.plain.equal y z = .ok true) : y = z :=
      eq_of_beq (Except.ok.inj hequal)
    rw [hrun, hknown fun y _ => hsame y x]
    rfl
  · cases herror

theorem not_raisesWithin (d : MethodDefinition) (owner : Fin L.size) (e : Error) :
    ¬ L.plain.RaisesWithin d owner e := by
  intro h
  cases h with
  | title h => cases h
  | derived _ _ h => cases h
  | equal _ _ _ h => cases h
  | members _ h => cases h
  | behind _ _ h => exact L.not_raisesBehind _ e h

theorem answersPlainly (d : MethodDefinition) (owner : Fin L.size) :
    L.plain.AnswersPlainly d owner where
  raises := L.not_raisesWithin d owner
  tellsApart b c _ _ hequal := by
    have hbeq : (b == c) = true := Except.ok.inj hequal
    exact eq_of_beq hbeq

/-- Some code that calls is let through when it may and refused when it may not, once all that the
allowed classes hold is settled. -/
theorem checkAccess_caller (d : MethodDefinition) (owner : Fin L.size) (k : Code)
    (h : d.visibility.isPublic = false → ∀ c, L.IsAllowed d owner c →
      ∀ x ∈ (L.facet c).members, L.IsSettled x) :
    (L.checkAccess d owner (some k) = .ok () ↔ L.MayCall d owner (some k)) ∧
      (L.checkAccess d owner (some k) =
        .error (.access d.name d.visibility (L.facet owner).title) ↔
          ¬ L.MayCall d owner (some k)) :=
  RaisingLandscape.checkAccess_caller (R := L.plain) fun hd =>
    ⟨L.answersPlainly d owner, fun ⟨c, hc, x, hx, hunsettled⟩ => hunsettled (h hd c hc x hx)⟩

theorem isSettled_of_lt {L : Landscape} (h : ∀ x y, L.Holds x y → x < y) (x : Fin L.size) :
    L.IsSettled x := by
  intro y _ hy
  have hlt : ∀ z, TransGen L.Holds y z → y < z := by
    intro z hz
    induction hz with
    | single hz => exact h _ _ hz
    | tail _ hz ih => exact ih.trans (h _ _ hz)
  exact lt_irrefl y (hlt y hy)

end Landscape

/-- A class, one derived from it, and a binder around a function that the latter holds. -/
def familyOfTwo : Landscape where
  size := 4
  facet
    | 0 => { (Facet.blank : Facet (Fin 4)) with title := .ofText "Base", derived := [1] }
    | 1 => { (Facet.blank : Facet (Fin 4)) with title := .ofText "Sub", members := [2] }
    | 2 => { (Facet.blank : Facet (Fin 4)) with layer? := some (.binder 3) }
    | 3 => { (Facet.blank : Facet (Fin 4)) with code? := some (.mk "f" [.mk "lambda" []]) }

/-- The same with a class that raises an error when it is asked for those derived from it. -/
def familyOfTwo.raising : RaisingLandscape where
  toLandscape := familyOfTwo
  raised? q x := if q = .derived ∧ x.val = 1 then some .badFunctionName else none
  equal x y := .ok (x == y)

/-- Code inside of a function of a derived class may call a protected member, unless a class raises
an error before. -/
theorem RaisingLandscape.checkAccess_iff_familyOfTwo :
    let d : MethodDefinition := ⟨.str "p", .protectedMember, [], .null, false⟩
    familyOfTwo.plain.checkAccess d (0 : Fin 4) (some (.mk "lambda" [])) = .ok () ∧
      familyOfTwo.raising.checkAccess d (0 : Fin 4) (some (.mk "lambda" [])) =
        .error .badFunctionName ∧
      familyOfTwo.raising.RaisesWithin d (0 : Fin 4) .badFunctionName := by
  intro d
  have hsettled : ∀ x, familyOfTwo.IsSettled x := Landscape.isSettled_of_lt (by decide)
  have hallowed : familyOfTwo.IsAllowed d (0 : Fin 4) (1 : Fin 4) :=
    Or.inr ⟨rfl, .single (List.mem_singleton_self _)⟩
  have hholds : familyOfTwo.Holds (2 : Fin 4) (3 : Fin 4) :=
    ⟨.binder _, rfl, List.mem_singleton_self _⟩
  have hcode : familyOfTwo.HasCode (3 : Fin 4) (.mk "lambda" []) :=
    ⟨_, rfl, .single (List.mem_singleton_self _)⟩
  have hbehind : familyOfTwo.IsBehind (2 : Fin 4) (.mk "lambda" []) :=
    ⟨_, _, .single hholds, rfl, .refl, hcode⟩
  have hraised : familyOfTwo.raising.checkAccess d (0 : Fin 4) (some (.mk "lambda" [])) =
      .error .badFunctionName := rfl
  refine ⟨?_, hraised, ?_⟩
  · obtain ⟨-, -, hplain⟩ :=
      checkAccess_iff familyOfTwo.plain d (0 : Fin 4) (some (.mk "lambda" []))
    refine (hplain fun _ => ⟨rfl, fun _ => ⟨familyOfTwo.answersPlainly d (0 : Fin 4), ?_⟩⟩).1.2
      (Or.inr ⟨_, rfl, _, hallowed, _, List.mem_singleton_self _, hbehind⟩)
    rintro ⟨c, _, x, _, hunsettled⟩
    exact hunsettled (hsettled x)
  · obtain ⟨-, hends, -⟩ :=
      checkAccess_iff familyOfTwo.raising d (0 : Fin 4) (some (.mk "lambda" []))
    obtain ⟨-, ⟨hrefused, -⟩ | hraises | ⟨htooMany, -⟩⟩ := hends _ hraised
    · cases hrefused
    · exact hraises
    · cases htooMany

/-- A class that holds a function prepared around itself. -/
def circle : Landscape where
  size := 2
  facet
    | 0 => { (Facet.blank : Facet (Fin 2)) with title := .ofText "Base", members := [1] }
    | 1 => { (Facet.blank : Facet (Fin 2)) with layer? := some (.prepared 1) }

/-- Without an end to the layers a call that nobody may make is not refused as such. -/
example : circle.checkAccess ⟨.str "p", .privateMember, [], .null, false⟩ (0 : Fin 2)
    (some (.mk "f" [])) = .error .tooManyLayers :=
  rfl

end StubClass
