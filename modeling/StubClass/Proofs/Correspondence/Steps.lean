import Mathlib.Data.List.Forall2
import StubClass.Class.Building
import StubClass.Class.Finding
import StubClass.Class.Reach
import StubClass.Generator.Declaring
import StubClass.Generator.Sending

set_option autoImplicit false

/-! # Steps that correspond

The steps of a declaration, of a call from inside, of building a class, of finding its members and
of checking a call are written once, and are taken on objects as well as on values. Where the parts
of two instances correspond, so do the instances: each of them does nothing but its parts, one after
another, and to do one part after another keeps a `Correspondence`. What stands for what may depend
on where things stand by then. -/

namespace StubClass

/-- How parts of one kind correspond to parts of another kind. -/
structure Correspondence (n m : Type → Type) [Monad n] [Monad m] where
  /-- Where things stand. -/
  Situation : Type
  IsLater : Situation → Situation → Prop
  trans : ∀ {i j k : Situation}, IsLater i j → IsLater j k → IsLater i k
  /-- What two parts come to from a situation on stands for each other, where it stands. -/
  Rel : {α β : Type} → (Situation → α → β → Prop) → Situation → n α → m β → Prop
  pure : ∀ {α β : Type} {R : Situation → α → β → Prop} {i : Situation} {a : α} {b : β},
    R i a b → Rel R i (Pure.pure a) (Pure.pure b)
  bind : ∀ {α β γ δ : Type} {R : Situation → α → β → Prop} {S : Situation → γ → δ → Prop}
    {i : Situation} {x : n α} {y : m β} {f : α → n γ} {g : β → m δ}, Rel R i x y →
      (∀ j, IsLater i j → ∀ a b, R j a b → Rel S j (f a) (g b)) → Rel S i (x >>= f) (y >>= g)

namespace Correspondence

variable {n m : Type → Type} [Monad n] [Monad m] (C : Correspondence n m)

/-- What stands for something goes on to stand for it. -/
def Stays {α β : Type} (R : C.Situation → α → β → Prop) : Prop :=
  ∀ ⦃i j⦄, C.IsLater i j → ∀ ⦃a b⦄, R i a b → R j a b

/-- Two parts come to the same. -/
abbrev Same {α : Type} (i : C.Situation) (x : n α) (y : m α) : Prop :=
  C.Rel (fun _ => Eq) i x y

/-- Things that stand for each other one by one. -/
abbrev All {α β : Type} (R : C.Situation → α → β → Prop) (i : C.Situation) :
    List α → List β → Prop :=
  List.Forall₂ (R i)

variable {C} {α α' κ κ' : Type} {A : C.Situation → α → α' → Prop} {K : C.Situation → κ → κ' → Prop}

theorem Stays.all (h : C.Stays A) : C.Stays (C.All A) :=
  fun _ _ hij _ _ hxs => hxs.imp (h hij)

end Correspondence

open Correspondence

variable {n m : Type → Type} [Monad n] [Monad m] {C : Correspondence n m}
  {α α' β β' δ δ' ε ε' η η' κ κ' μ μ' ν ν' ρ ρ' σ σ' φ φ' : Type}
  {A : C.Situation → α → α' → Prop} {B : C.Situation → β → β' → Prop}
  {D : C.Situation → δ → δ' → Prop} {E : C.Situation → ε → ε' → Prop}
  {H : C.Situation → η → η' → Prop} {K : C.Situation → κ → κ' → Prop}
  {M : C.Situation → μ → μ' → Prop} {N : C.Situation → ν → ν' → Prop}
  {P : C.Situation → ρ → ρ' → Prop} {S : C.Situation → σ → σ' → Prop}
  {F : C.Situation → φ → φ' → Prop}

/-! ## Declarations -/

/-- The parts of two declarations correspond. -/
structure Declaring.Corresponds (C : Correspondence n m) (B : C.Situation → β → β' → Prop)
    (D : C.Situation → δ → δ' → Prop) (d : Declaring n β δ) (d' : Declaring m β' δ') : Prop where
  start : ∀ i, C.Rel B i d.start d'.start
  isDeclared : ∀ i b b', B i b b' → C.Same i (d.isDeclared b) (d'.isDeclared b')
  refuse : ∀ i b b', B i b b' → C.Same i (d.refuse b) (d'.refuse b')
  configure : ∀ i b b', B i b b' → C.Rel B i (d.configure b) (d'.configure b')
  freeze : ∀ i b b', B i b b' → C.Rel D i (d.freeze b) (d'.freeze b')
  keep : ∀ i x x', D i x x' → C.Same i (d.keep x) (d'.keep x')

theorem Declaring.Corresponds.run {d : Declaring n β δ} {d' : Declaring m β' δ'}
    (h : d.Corresponds C B D d') (hB : C.Stays B) (i : C.Situation) : C.Same i d.run d'.run := by
  refine C.bind (h.start i) fun j _ b b' hb => ?_
  refine C.bind (h.isDeclared j b b' hb) fun k hjk declared _ hdeclared => ?_
  subst hdeclared
  have hb := hB hjk hb
  cases declared with
  | true => exact h.refuse k b b' hb
  | false =>
      refine C.bind (h.configure k b b' hb) fun l _ b b' hb => ?_
      exact C.bind (h.freeze l b b' hb) fun l _ x x' hx => h.keep l x x' hx

/-! ## Calls from inside -/

/-- The parts of two calls from inside correspond. -/
structure Sending.Corresponds (C : Correspondence n m) (M : C.Situation → μ → μ' → Prop)
    (P : C.Situation → ρ → ρ' → Prop) (s : Sending n μ ρ) (s' : Sending m μ' ρ') : Prop where
  member? : ∀ i, C.Rel (fun i => Option.Rel (M i)) i s.member? s'.member?
  bindsToClass : ∀ i x x', M i x x' → C.Same i (s.bindsToClass x) (s'.bindsToClass x')
  isOnClass : ∀ i, C.Same i s.isOnClass s'.isOnClass
  refuse : ∀ i bindsToClass, C.Rel P i (s.refuse bindsToClass) (s'.refuse bindsToClass)
  invoke : ∀ i x x', M i x x' → C.Rel P i (s.invoke x) (s'.invoke x')
  callAttribute : ∀ i, C.Rel P i s.callAttribute s'.callAttribute

theorem Sending.Corresponds.run {s : Sending n μ ρ} {s' : Sending m μ' ρ'}
    (h : s.Corresponds C M P s') (hM : C.Stays M) (i : C.Situation) : C.Rel P i s.run s'.run := by
  refine C.bind (h.member? i) fun j _ x? x'? hx => ?_
  cases hx with
  | none => exact h.callAttribute j
  | @some x x' hx =>
      refine C.bind (h.bindsToClass j x x' hx) fun k hjk binds _ hbinds => ?_
      refine C.bind (h.isOnClass k) fun l hkl onClass _ honClass => ?_
      subst hbinds honClass
      cases hlevel : binds != onClass with
      | true => exact h.refuse l binds
      | false => exact h.invoke l x x' (hM (C.trans hjk hkl) hx)

/-! ## Building classes -/

/-- The parts of two buildings correspond. -/
structure Building.Corresponds (C : Correspondence n m) (D : C.Situation → δ → δ' → Prop)
    (N : C.Situation → ν → ν' → Prop) (K : C.Situation → κ → κ' → Prop) (b : Building n δ ν κ)
    (b' : Building m δ' ν' κ') : Prop where
  start : ∀ i, C.Rel N i b.start b'.start
  definitions : ∀ i, C.Rel (C.All D) i b.definitions b'.definitions
  add : ∀ i own own' d d', N i own own' → D i d d' → C.Rel N i (b.add own d) (b'.add own' d')
  finish : ∀ i own own' count, N i own own' →
    C.Rel K i (b.finish own count) (b'.finish own' count)

namespace Building.Corresponds

variable {b : Building n δ ν κ} {b' : Building m δ' ν' κ'}

theorem addAll (h : b.Corresponds C D N K b') (hD : C.Stays D) {i : C.Situation} {own : ν}
    {own' : ν'} (hown : N i own own') {ds : List δ} {ds' : List δ'} (hds : C.All D i ds ds') :
    C.Rel N i (b.addAll own ds) (b'.addAll own' ds') := by
  induction ds generalizing i own own' ds' with
  | nil =>
      cases hds
      exact C.pure hown
  | cons d ds ih =>
      cases hds with
      | @cons _ d' _ ds' hd hds =>
          exact C.bind (h.add i own own' d d' hown hd) fun j hij own own' hown =>
            ih hown (hD.all hij hds)

theorem run (h : b.Corresponds C D N K b') (hD : C.Stays D) (hN : C.Stays N) (i : C.Situation) :
    C.Rel K i b.run b'.run := by
  refine C.bind (h.start i) fun j _ own own' hown => ?_
  refine C.bind (h.definitions j) fun k hjk ds ds' hds => ?_
  refine C.bind (h.addAll hD (hN hjk hown) hds) fun l _ own own' hown => ?_
  rw [hds.length_eq]
  exact h.finish l own own' ds'.length hown

end Building.Corresponds

/-! ## Finding members -/

/-- The parts of two ways of finding members correspond. -/
structure Finding.Corresponds (C : Correspondence n m) (K : C.Situation → κ → κ' → Prop)
    (E : C.Situation → ε → ε' → Prop) (H : C.Situation → η → η' → Prop)
    (N : C.Situation → ν → ν' → Prop) (S : C.Situation → σ → σ' → Prop)
    (f : Finding n κ ε η ν σ) (f' : Finding m κ' ε' η' ν' σ') : Prop where
  order : ∀ i, C.Rel (C.All K) i f.order f'.order
  entries : ∀ i c c', K i c c' → C.Rel (C.All E) i (f.entries c) (f'.entries c')
  parts : ∀ i e e', E i e e' →
    C.Rel (fun i p p' => H i p.1 p'.1 ∧ N i p.2 p'.2) i (f.parts e) (f'.parts e')
  unseen : ∀ i, S i f.unseen f'.unseen
  isSeen : ∀ i seen seen' name name', S i seen seen' → H i name name' →
    C.Same i (f.isSeen seen name) (f'.isSeen seen' name')
  see : ∀ i seen seen' name name', S i seen seen' → H i name name' →
    C.Rel S i (f.see seen name) (f'.see seen' name')
  isMember : ∀ i x x', N i x x' → C.Same i (f.isMember x) (f'.isMember x')
  keep : ∀ i name name' x x', H i name name' → N i x x' →
    C.Same i (f.keep name x) (f'.keep name' x')

/-- What is found stays what it is. -/
structure Finding.Stays (C : Correspondence n m) (K : C.Situation → κ → κ' → Prop)
    (E : C.Situation → ε → ε' → Prop) (H : C.Situation → η → η' → Prop)
    (N : C.Situation → ν → ν' → Prop) (S : C.Situation → σ → σ' → Prop) : Prop where
  classes : C.Stays K
  entries : C.Stays E
  names : C.Stays H
  things : C.Stays N
  seen : C.Stays S

namespace Finding.Corresponds

variable {f : Finding n κ ε η ν σ} {f' : Finding m κ' ε' η' ν' σ'}

theorem collectEntries (h : f.Corresponds C K E H N S f') (hstays : Finding.Stays C K E H N S)
    {i : C.Situation} {seen : σ} {seen' : σ'} (hseen : S i seen seen') {es : List ε}
    {es' : List ε'} (hes : C.All E i es es') :
    C.Rel S i (f.collectEntries seen es) (f'.collectEntries seen' es') := by
  induction es generalizing i seen seen' es' with
  | nil =>
      cases hes
      exact C.pure hseen
  | cons e es ih =>
      cases hes with
      | @cons _ e' _ es' he hes =>
          refine C.bind (h.parts i e e' he) fun j hij ⟨name, x⟩ ⟨name', x'⟩ ⟨hname, hx⟩ => ?_
          have hseen := hstays.seen hij hseen
          refine C.bind (h.isSeen j _ _ _ _ hseen hname) fun k hjk known _ hknown => ?_
          subst hknown
          have hseen := hstays.seen hjk hseen
          cases known with
          | true => exact ih hseen (hstays.entries.all (C.trans hij hjk) hes)
          | false =>
              have hname' := hstays.names hjk hname
              refine C.bind (h.see k _ _ _ _ hseen hname') fun l hkl seen seen' hseen => ?_
              have hjl := C.trans hjk hkl
              have hx' := hstays.things hjl hx
              refine C.bind (h.isMember l _ _ hx') fun o hlo member _ hmember => ?_
              subst hmember
              have hjo := C.trans hjl hlo
              cases member with
              | true =>
                  have hkept := h.keep o _ _ _ _ (hstays.names hjo hname) (hstays.things hjo hx)
                  exact C.bind hkept fun p hop _ _ _ => ih (hstays.seen (C.trans hlo hop) hseen)
                    (hstays.entries.all (C.trans hij (C.trans hjo hop)) hes)
              | false =>
                  exact ih (hstays.seen hlo hseen) (hstays.entries.all (C.trans hij hjo) hes)

theorem collectAlong (h : f.Corresponds C K E H N S f') (hstays : Finding.Stays C K E H N S)
    {i : C.Situation} {seen : σ} {seen' : σ'} (hseen : S i seen seen') {cs : List κ}
    {cs' : List κ'} (hcs : C.All K i cs cs') :
    C.Same i (f.collectAlong seen cs) (f'.collectAlong seen' cs') := by
  induction cs generalizing i seen seen' cs' with
  | nil =>
      cases hcs
      exact C.pure rfl
  | cons c cs ih =>
      cases hcs with
      | @cons _ c' _ cs' hc hcs =>
          refine C.bind (h.entries i c c' hc) fun j hij es es' hes => ?_
          have hentries := h.collectEntries hstays (hstays.seen hij hseen) hes
          exact C.bind hentries fun k hjk seen seen' hseen =>
            ih hseen (hstays.classes.all (C.trans hij hjk) hcs)

theorem collect (h : f.Corresponds C K E H N S f') (hstays : Finding.Stays C K E H N S)
    (i : C.Situation) : C.Same i f.collect f'.collect :=
  C.bind (h.order i) fun j _ _ _ hcs => h.collectAlong hstays (h.unseen j) hcs

end Finding.Corresponds

end StubClass
