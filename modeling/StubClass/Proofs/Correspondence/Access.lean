import StubClass.Proofs.Correspondence.Steps

set_option autoImplicit false

/-! # Checks of calls that correspond

The check of a call goes through descendants, layers, chains and nested code as far as there is
room. Of two checks whose parts correspond the second may have more room than the first one: they
correspond as long as nothing is said of a first one that goes too deep. For descendants there has
to be as much room as they need. -/

namespace StubClass

open Correspondence

variable {n m : Type → Type} [Monad n] [Monad m] {C : Correspondence n m}
  {α α' κ κ' φ φ' : Type} {A : C.Situation → α → α' → Prop} {K : C.Situation → κ → κ' → Prop}
  {F : C.Situation → φ → φ' → Prop}

/-! ## Descendants -/

section Descendants

variable {below : α → n (List α)} {below' : α' → m (List α')} {isAmong : α → List α → n Bool}
  {isAmong' : α' → List α' → m Bool}

theorem addUnknown_corresponds (hA : C.Stays A)
    (hisAmong : ∀ i x x' xs xs', A i x x' → C.All A i xs xs' →
      C.Same i (isAmong x xs) (isAmong' x' xs'))
    {i : C.Situation} {found : List α} {found' : List α'} (hfound : C.All A i found found')
    {new : List α} {new' : List α'} (hnew : C.All A i new new') :
    C.Rel (C.All A) i (addUnknown isAmong found new) (addUnknown isAmong' found' new') := by
  induction new generalizing i found found' new' with
  | nil =>
      cases hnew
      exact C.pure hfound
  | cons x xs ih =>
      cases hnew with
      | @cons _ x' _ xs' hx hxs =>
          refine C.bind (hisAmong i x x' found found' hx hfound) fun j hij known _ hknown => ?_
          subst hknown
          have hfound := hA.all hij hfound
          cases known with
          | true => exact ih hfound (hA.all hij hxs)
          | false => exact ih (List.rel_append hfound (.cons (hA hij hx) .nil)) (hA.all hij hxs)

theorem descendantsFrom_corresponds (hA : C.Stays A)
    (hbelow : ∀ i x x', A i x x' → C.Rel (C.All A) i (below x) (below' x'))
    (hisAmong : ∀ i x x' xs xs', A i x x' → C.All A i xs xs' →
      C.Same i (isAmong x xs) (isAmong' x' xs'))
    (fuel place : Nat) {i : C.Situation} {found : List α} {found' : List α'}
    (hfound : C.All A i found found') :
    C.Rel (C.All A) i (descendantsFrom below isAmong fuel found place)
      (descendantsFrom below' isAmong' fuel found' place) := by
  induction fuel generalizing i found found' place with
  | zero => exact C.pure hfound
  | succ fuel ih =>
      rw [descendantsFrom, descendantsFrom]
      rcases Nat.lt_or_ge place found.length with hplace | hplace
      · have hplace' : place < found'.length := hfound.length_eq ▸ hplace
        rw [List.getElem?_eq_getElem hplace, List.getElem?_eq_getElem hplace']
        have hx := hfound.get hplace hplace'
        refine C.bind (hbelow i _ _ hx) fun j hij new new' hnew => ?_
        exact C.bind (addUnknown_corresponds hA hisAmong (hA.all hij hfound) hnew)
          fun k _ _ _ hnext => ih (place + 1) hnext
      · rw [List.getElem?_eq_none hplace, List.getElem?_eq_none (hfound.length_eq ▸ hplace)]
        exact C.pure hfound

end Descendants

/-! ## Code -/

theorem collect_corresponds (hA : C.Stays A) (hK : C.Stays K) {find : α → n (List κ)}
    {find' : α' → m (List κ')} (hfind : ∀ i x x', A i x x' → C.Rel (C.All K) i (find x) (find' x'))
    {i : C.Situation} {xs : List α} {xs' : List α'} (hxs : C.All A i xs xs') :
    C.Rel (C.All K) i (collect find xs) (collect find' xs') := by
  induction xs generalizing i xs' with
  | nil =>
      cases hxs
      exact C.pure .nil
  | cons x xs ih =>
      cases hxs with
      | @cons _ x' _ xs' hx hxs =>
          refine C.bind (hfind i x x' hx) fun j hij here here' hhere => ?_
          exact C.bind (ih (hA.all hij hxs)) fun k hjk _ _ hrest =>
            C.pure (List.rel_append (hK.all hjk hhere) hrest)

/-- The parts of two ways of looking into members and code correspond. -/
structure Inspection.Corresponds (C : Correspondence n m) (A : C.Situation → α → α' → Prop)
    (K : C.Situation → κ → κ' → Prop) (i : Inspection n α κ) (i' : Inspection m α' κ') :
    Prop where
  layer? : ∀ s x x', A s x x' → C.Rel
    (fun s => Option.Rel fun l l' => C.All A s l.held l'.held) s (i.layer? x) (i'.layer? x')
  wrapped? : ∀ s x x', A s x x' →
    C.Rel (fun s => Option.Rel (A s)) s (i.wrapped? x) (i'.wrapped? x')
  isOne : ∀ s x x' y y', A s x x' → A s y y' → C.Same s (i.isOne x y) (i'.isOne x' y')
  code? : ∀ s x x', A s x x' → C.Rel (fun s => Option.Rel (K s)) s (i.code? x) (i'.code? x')
  nested : ∀ s k k', K s k k' → C.Rel (C.All K) s (i.nested k) (i'.nested k')

namespace Inspection.Corresponds

variable {i : Inspection n α κ} {i' : Inspection m α' κ'} (h : i.Corresponds C A K i')
  (hdeep : ∀ s y, C.Rel (C.All K) s i.tooDeep y) (hA : C.Stays A) (hK : C.Stays K)

include h hA in
theorem isSeen {s : C.Situation} {x : α} {x' : α'} (hx : A s x x') {xs : List α} {xs' : List α'}
    (hxs : C.All A s xs xs') : C.Same s (i.isSeen x xs) (i'.isSeen x' xs') := by
  induction xs generalizing s xs' with
  | nil =>
      cases hxs
      exact C.pure rfl
  | cons y ys ih =>
      cases hxs with
      | @cons _ y' _ ys' hy hys =>
          refine C.bind (h.isOne s x x' y y' hx hy) fun t hst one _ hone => ?_
          subst hone
          cases one with
          | true => exact C.pure rfl
          | false => exact ih (hA hst hx) (hA.all hst hys)

include h hdeep hK

theorem allNested {depth depth' : Nat} (hdepth : depth ≤ depth') {s : C.Situation} {k : κ}
    {k' : κ'} (hk : K s k k') :
    C.Rel (C.All K) s (i.allNested depth k) (i'.allNested depth' k') := by
  induction depth generalizing s k k' depth' with
  | zero => exact hdeep s _
  | succ depth ih =>
      cases depth' with
      | zero => omega
      | succ depth' =>
          refine C.bind (h.nested s k k' hk) fun t hst ks ks' hks => ?_
          have hfind (u : C.Situation) (l : κ) (l' : κ') (hl : K u l l') :=
            ih (Nat.le_of_succ_le_succ hdepth) hl
          exact C.bind (collect_corresponds hK hK hfind hks) fun u htu _ _ hrest =>
            C.pure (.cons (hK (C.trans hst htu) hk) hrest)

theorem codeOf {depth depth' : Nat} (hdepth : depth ≤ depth') {s : C.Situation} {x : α} {x' : α'}
    (hx : A s x x') : C.Rel (C.All K) s (i.codeOf depth x) (i'.codeOf depth' x') := by
  refine C.bind (h.code? s x x' hx) fun t _ _ _ hcode => ?_
  cases hcode with
  | none => exact C.pure .nil
  | some hk => exact h.allNested hdeep hK hdepth hk

include hA

theorem chainCode {depth depth' fuel fuel' : Nat} (hdepth : depth ≤ depth') (hfuel : fuel ≤ fuel')
    {s : C.Situation} {seen : List α} {seen' : List α'} (hseen : C.All A s seen seen') {x : α}
    {x' : α'} (hx : A s x x') :
    C.Rel (C.All K) s (i.chainCode depth fuel seen x) (i'.chainCode depth' fuel' seen' x') := by
  induction fuel generalizing s seen seen' x x' fuel' with
  | zero => exact hdeep s _
  | succ fuel ih =>
      cases fuel' with
      | zero => omega
      | succ fuel' =>
          refine C.bind (h.codeOf hdeep hK hdepth hx) fun t hst here here' hhere => ?_
          have hx := hA hst hx
          refine C.bind (h.wrapped? t x x' hx) fun u htu _ _ hwrapped => ?_
          have hhere := hK.all htu hhere
          cases hwrapped with
          | none => exact C.pure hhere
          | @some y y' hy =>
              have hseen : C.All A u (x :: seen) (x' :: seen') :=
                .cons (hA htu hx) (hA.all (C.trans hst htu) hseen)
              refine C.bind (h.isSeen hA hy hseen) fun v huv known _ hknown => ?_
              subst hknown
              have hhere := hK.all huv hhere
              cases known with
              | true => exact C.pure hhere
              | false =>
                  have hrest := ih (Nat.le_of_succ_le_succ hfuel) (hA.all huv hseen) (hA huv hy)
                  exact C.bind hrest fun w hvw _ _ hrest =>
                    C.pure (List.rel_append (hK.all hvw hhere) hrest)

theorem codeBehind {fuel fuel' depth depth' : Nat} (hfuel : fuel ≤ fuel')
    (hdepth : depth ≤ depth') {s : C.Situation} {x : α} {x' : α'} (hx : A s x x') :
    C.Rel (C.All K) s (i.codeBehind fuel depth x) (i'.codeBehind fuel' depth' x') := by
  induction depth generalizing s x x' depth' with
  | zero => exact hdeep s _
  | succ depth ih =>
      cases depth' with
      | zero => omega
      | succ depth' =>
          refine C.bind (h.layer? s x x' hx) fun t hst _ _ hlayer => ?_
          cases hlayer with
          | none => exact h.chainCode hdeep hA hK hfuel hfuel .nil (hA hst hx)
          | some hheld =>
              exact collect_corresponds hA hK
                (fun _ _ _ hy => ih (Nat.le_of_succ_le_succ hdepth) hy) hheld

end Inspection.Corresponds

/-! ## The check -/

/-- The parts of two checks of a call correspond. -/
structure Gate.Corresponds (C : Correspondence n m) (A : C.Situation → α → α' → Prop)
    (K : C.Situation → κ → κ' → Prop) (F : C.Situation → φ → φ' → Prop) (g : Gate n α κ φ)
    (g' : Gate m α' κ' φ') : Prop where
  inspection : g.toInspection.Corresponds C A K g'.toInspection
  isPublic : ∀ s, C.Same s g.isPublic g'.isPublic
  isProtected : ∀ s, C.Same s g.isProtected g'.isProtected
  below : ∀ s x x', A s x x' → C.Rel (C.All A) s (g.below x) (g'.below x')
  isAmong : ∀ s x x' xs xs', A s x x' → C.All A s xs xs' →
    C.Same s (g.isAmong x xs) (g'.isAmong x' xs')
  members : ∀ s x x', A s x x' → C.Rel (C.All A) s (g.members x) (g'.members x')
  isCaller : ∀ s c c' k k', F s c c' → K s k k' → C.Same s (g.isCaller c k) (g'.isCaller c' k')
  refuse : ∀ s, C.Same s g.refuse g'.refuse

/-- Of two checks of a call the second has as much room as the first, and there is enough for all
descendants in both; nothing is said of a first one that goes too deep. -/
structure Gate.HasRoom (C : Correspondence n m) (K : C.Situation → κ → κ' → Prop)
    (g : Gate n α κ φ) (g' : Gate m α' κ' φ') : Prop where
  tooDeep : ∀ s y, C.Rel (C.All K) s g.tooDeep y
  room : ∀ s, C.Rel (fun _ room room' => room ≤ room' ∧ ∀ x,
    descendants g.below g.isAmong room x = descendants g.below g.isAmong room' x) s g.room g'.room
  depth : ∀ s, C.Rel (fun _ depth depth' => depth ≤ depth') s g.depth g'.depth

namespace Gate.Corresponds

variable {g : Gate n α κ φ} {g' : Gate m α' κ' φ'} (h : g.Corresponds C A K F g')
  (hroom : g.HasRoom C K g') (hA : C.Stays A) (hK : C.Stays K) (hF : C.Stays F)

include h hroom hA in
theorem classes {s : C.Situation} {x : α} {x' : α'} (hx : A s x x') :
    C.Rel (C.All A) s (g.classes x) (g'.classes x') := by
  refine C.bind (h.isProtected s) fun t hst isProtected _ hprotected => ?_
  subst hprotected
  have hx := hA hst hx
  cases isProtected with
  | true =>
      refine C.bind (hroom.room t) fun u htu room room' ⟨_, henough⟩ => ?_
      rw [henough x]
      exact descendantsFrom_corresponds hA h.below h.isAmong room' 0 (.cons (hA htu hx) .nil)
  | false => exact C.pure (.cons hx .nil)

include h hK hF in
theorem anyTrue {s : C.Situation} {c : φ} {c' : φ'} (hc : F s c c') {ks : List κ} {ks' : List κ'}
    (hks : C.All K s ks ks') :
    C.Same s (anyHasCode.anyTrue (g.isCaller c) ks) (anyHasCode.anyTrue (g'.isCaller c') ks') := by
  induction ks generalizing s ks' with
  | nil =>
      cases hks
      exact C.pure rfl
  | cons k ks ih =>
      cases hks with
      | @cons _ k' _ ks' hk hks =>
          refine C.bind (h.isCaller s c c' k k' hc hk) fun t hst same _ hsame => ?_
          subst hsame
          cases same with
          | true => exact C.pure rfl
          | false => exact ih (hF hst hc) (hK.all hst hks)

include h hroom hA hK

theorem codeOfClass {s : C.Situation} {x : α} {x' : α'} (hx : A s x x') :
    C.Rel (C.All K) s (g.codeOfClass x) (g'.codeOfClass x') := by
  refine C.bind (h.members s x x' hx) fun t _ xs xs' hxs => ?_
  refine C.bind (hroom.room t) fun u htu fuel fuel' hfuel => ?_
  refine C.bind (hroom.depth u) fun v huv depth depth' hdepth => ?_
  exact collect_corresponds hA hK
    (fun _ _ _ hy => h.inspection.codeBehind hroom.tooDeep hA hK hfuel.1 hdepth hy)
    (hA.all (C.trans htu huv) hxs)

include hF

theorem anyHasCode {s : C.Situation} {c : φ} {c' : φ'} (hc : F s c c') {xs : List α}
    {xs' : List α'} (hxs : C.All A s xs xs') :
    C.Same s (StubClass.anyHasCode g.codeOfClass (g.isCaller c) xs)
      (StubClass.anyHasCode g'.codeOfClass (g'.isCaller c') xs') := by
  induction xs generalizing s xs' with
  | nil =>
      cases hxs
      exact C.pure rfl
  | cons x xs ih =>
      cases hxs with
      | @cons _ x' _ xs' hx hxs =>
          refine C.bind (h.codeOfClass hroom hA hK hx) fun t hst ks ks' hks => ?_
          have hc := hF hst hc
          refine C.bind (h.anyTrue hK hF hc hks) fun u htu found _ hfound => ?_
          subst hfound
          cases found with
          | true => exact C.pure rfl
          | false => exact ih (hF htu hc) (hA.all (C.trans hst htu) hxs)

/-- Two checks of a call whose parts correspond let the same calls through, and fail alike. -/
theorem check {s : C.Situation} {owner : α} {owner' : α'} (howner : A s owner owner')
    {caller : Option φ} {caller' : Option φ'} (hcaller : Option.Rel (F s) caller caller') :
    C.Same s (g.check owner caller) (g'.check owner' caller') := by
  cases hcaller with
  | none =>
      refine C.bind (h.isPublic s) fun t _ isPublic _ hpublic => ?_
      subst hpublic
      cases isPublic with
      | true => exact C.pure rfl
      | false => exact h.refuse t
  | @some c c' hc =>
      refine C.bind (h.isPublic s) fun t hst isPublic _ hpublic => ?_
      subst hpublic
      cases isPublic with
      | true => exact C.pure rfl
      | false =>
          refine C.bind (h.classes hroom hA (hA hst howner)) fun u htu xs xs' hxs => ?_
          have hc := hF (C.trans hst htu) hc
          refine C.bind (h.anyHasCode hroom hA hK hF hc hxs) fun v _ found _ hfound => ?_
          subst hfound
          cases found with
          | true => exact C.pure rfl
          | false => exact h.refuse v

end Gate.Corresponds

end StubClass
