import StubClass.Proofs.Class.Access

set_option autoImplicit false

/-! # Layers around a member

A member may be put into a further layer, or be wrapped by a function. What a layer holds is opened
like a member itself, so nothing is lost by one more layer; what a function wraps is followed along
the chain of wrapped objects and not opened again. So a function around a function adds to what is
found, and a function around a layer hides everything in it (`isBehind_wrapping_iff`). From one step
that keeps what is behind (`Keeps.isBehind`) it goes on to any number of them, in any order. -/

namespace StubClass

open Relation

namespace Landscape

variable (L : Landscape)

/-- The code that a check of access finds behind a member. -/
def codeOfMember (x : Fin L.size) : Except Error (List Code) :=
  L.inspection.codeBehind (L.size + L.codeCount + 1) (L.size + 1) x

/-- An object is no layer. -/
def IsBare (x : Fin L.size) : Prop :=
  (L.facet x).layer? = none

/-- What an object has around it keeps what is behind it: it is a layer that holds the object, or it
wraps the object and neither of them is a layer. -/
def Keeps (x m : Fin L.size) : Prop :=
  L.Holds x m ∨ L.Wraps x m ∧ L.IsBare x ∧ L.IsBare m

variable {L} {x m : Fin L.size} {k : Code}

theorem codeOfMember_finds (hx : L.IsSettled x) : Finds (L.codeOfMember x) (L.IsBehind x) :=
  L.codeBehind_finds hx

/-! ## One layer -/

theorem isBehind_of_holds (h : L.Holds x m) (hk : L.IsBehind m k) : L.IsBehind x k := by
  obtain ⟨layer, hlayer, hm⟩ := h
  exact (L.isBehind_of_layer hlayer k).2 ⟨m, hm, hk⟩

/-- Behind a layer there is what is behind the objects that it holds. -/
theorem isBehind_layer_iff (hx : ¬ L.IsBare x) :
    L.IsBehind x k ↔ ∃ y, L.Holds x y ∧ L.IsBehind y k := by
  obtain ⟨layer, hlayer⟩ := Option.ne_none_iff_exists'.1 hx
  rw [L.isBehind_of_layer hlayer]
  simp [Holds, hlayer]

/-- Behind an object that is no layer and wraps another one there is its own code, and that of the
other one and of what this wraps in turn; the layers of the other one are not opened. -/
theorem isBehind_wrapping_iff (hx : L.IsBare x) (h : L.Wraps x m) :
    L.IsBehind x k ↔ L.HasCode x k ∨ ∃ z, ReflTransGen L.Wraps m z ∧ L.HasCode z k := by
  rw [L.isBehind_of_bare hx]
  constructor
  · rintro ⟨z, hz, hk⟩
    rcases ReflTransGen.cases_head hz with rfl | ⟨y, hy, hyz⟩
    · exact .inl hk
    · obtain rfl : m = y := Option.some.inj (h.symm.trans hy)
      exact .inr ⟨z, hyz, hk⟩
  · rintro (hk | ⟨z, hz, hk⟩)
    · exact ⟨x, .refl, hk⟩
    · exact ⟨z, .head h hz, hk⟩

theorem Keeps.isBehind (h : L.Keeps x m) (hk : L.IsBehind m k) : L.IsBehind x k := by
  rcases h with hholds | ⟨hwraps, hx, hm⟩
  · exact isBehind_of_holds hholds hk
  · exact (isBehind_wrapping_iff hx hwraps).2 (.inr ((L.isBehind_of_bare hm k).1 hk))

/-! ## Any number of layers -/

theorem isBehind_of_keeps (h : ReflTransGen L.Keeps x m) (hk : L.IsBehind m k) :
    L.IsBehind x k := by
  induction h using ReflTransGen.head_induction_on with
  | refl => exact hk
  | head hstep _ ih => exact hstep.isBehind ih

/-- Code behind a member of an allowed class may call. -/
theorem checkAccess_of_isBehind {d : MethodDefinition} {owner c : Fin L.size}
    (hc : L.IsAllowed d owner c) (hmember : x ∈ (L.facet c).members)
    (hsettled : ∀ c, L.IsAllowed d owner c → ∀ y ∈ (L.facet c).members, L.IsSettled y)
    (hk : L.IsBehind x k) : L.checkAccess d owner (some k) = .ok () :=
  (L.checkAccess_caller d owner k fun _ => hsettled).1.2
    (.inr ⟨k, rfl, c, hc, x, hmember, hk⟩)

/-- **A further layer keeps what is found, and so does a function around a function; a function
around a layer keeps nothing of it.** For objects whose layers come to an end, the search behind
each of them does. What it finds behind one of them it finds as well behind a layer that holds it, a
binder, a prepared function or an accessor of a property, and behind an object that wraps it, if
neither is a layer. An object that wraps another one is otherwise searched as far as the chain of
wrapped objects goes, without opening layers on it, and a layer is searched for what it holds and
not for what it wraps. So the code of a function may call what the class may call, whatever the
number and the order of the steps of the first kind that lie between it and a member of the class.
-/
theorem codeOfMember_decorated (hx : L.IsSettled x) (hm : L.IsSettled m) :
    (∃ outer inner, L.codeOfMember x = .ok outer ∧ L.codeOfMember m = .ok inner ∧
      (L.Holds x m → inner ⊆ outer) ∧
      (L.Wraps x m → L.IsBare x → L.IsBare m → inner ⊆ outer) ∧
      (L.Wraps x m → L.IsBare x → ∀ k, k ∈ outer ↔
        L.HasCode x k ∨ ∃ z, ReflTransGen L.Wraps m z ∧ L.HasCode z k) ∧
      (¬ L.IsBare x → ∀ k, k ∈ outer ↔ ∃ y, L.Holds x y ∧ L.IsBehind y k)) ∧
    ∀ (d : MethodDefinition) (owner c f : Fin L.size) (k : Code), L.IsAllowed d owner c →
      (∀ c, L.IsAllowed d owner c → ∀ y ∈ (L.facet c).members, L.IsSettled y) →
      x ∈ (L.facet c).members → ReflTransGen L.Keeps x f → L.IsBare f → L.HasCode f k →
      L.checkAccess d owner (some k) = .ok () := by
  obtain ⟨outer, houter, hbehind⟩ := codeOfMember_finds hx
  obtain ⟨inner, hinner, hinside⟩ := codeOfMember_finds hm
  -- what is found is what is behind, so both kinds of steps go the same way
  have hkeeps (h : L.Keeps x m) : inner ⊆ outer :=
    fun k hk => (hbehind k).2 (h.isBehind ((hinside k).1 hk))
  refine ⟨⟨outer, inner, houter, hinner, fun h => hkeeps (.inl h),
    fun h hx hm => hkeeps (.inr ⟨h, hx, hm⟩), fun h hx k => ?_, fun hx k => ?_⟩, ?_⟩
  · rw [hbehind, isBehind_wrapping_iff hx h]
  · rw [hbehind, isBehind_layer_iff hx]
  · intro d owner c f k hc hsettled hmember hchain hf hk
    have hkf : L.IsBehind f k := (L.isBehind_of_bare hf k).2 ⟨f, .refl, hk⟩
    exact checkAccess_of_isBehind hc hmember hsettled (isBehind_of_keeps hchain hkf)

/-- A class with a binder around a wrapped function, and a function around a binder. -/
def twoDecorated : Landscape where
  size := 7
  facet
    | 0 => { (Facet.blank : Facet (Fin 7)) with title := .ofText "Base", members := [1, 4] }
    | 1 => { (Facet.blank : Facet (Fin 7)) with layer? := some (.binder 2) }
    | 2 => { (Facet.blank : Facet (Fin 7)) with code? := some (.mk "v" []), wrapped? := some 3 }
    | 3 => { (Facet.blank : Facet (Fin 7)) with code? := some (.mk "f" []) }
    | 4 => { (Facet.blank : Facet (Fin 7)) with code? := some (.mk "w" []), wrapped? := some 5 }
    | 5 => { (Facet.blank : Facet (Fin 7)) with layer? := some (.binder 6) }
    | 6 => { (Facet.blank : Facet (Fin 7)) with code? := some (.mk "g" []) }

/-- The function in the binder may call what its class may call. That in the binder inside of a
function may not, although it might before the function was put around the binder. -/
theorem codeOfMember_decorated_twice :
    let d : MethodDefinition := ⟨.str "p", .privateMember, [], .null, false⟩
    (∀ x, twoDecorated.IsSettled x) ∧
      twoDecorated.checkAccess d (0 : Fin 7) (some (.mk "f" [])) = .ok () ∧
      (∃ outer inner, twoDecorated.codeOfMember (4 : Fin 7) = .ok outer ∧
        twoDecorated.codeOfMember (5 : Fin 7) = .ok inner ∧
        Code.mk "g" [] ∈ inner ∧ Code.mk "g" [] ∉ outer) ∧
      twoDecorated.checkAccess d (0 : Fin 7) (some (.mk "g" [])) =
        .error (.access (.str "p") .privateMember (.ofText "Base")) := by
  intro d
  have hsettled : ∀ x, twoDecorated.IsSettled x := isSettled_of_lt (by decide)
  obtain ⟨-, haccess⟩ := codeOfMember_decorated (hsettled (1 : Fin 7)) (hsettled (2 : Fin 7))
  obtain ⟨⟨outer, inner, houter, hinner, -⟩, -⟩ :=
    codeOfMember_decorated (hsettled (4 : Fin 7)) (hsettled (5 : Fin 7))
  have hbinder : twoDecorated.Keeps (1 : Fin 7) (2 : Fin 7) :=
    .inl ⟨.binder _, rfl, List.mem_singleton_self _⟩
  have hwrapped : twoDecorated.Keeps (2 : Fin 7) (3 : Fin 7) := .inr ⟨rfl, rfl, rfl⟩
  refine ⟨hsettled, ?_, ⟨outer, inner, houter, hinner, ?_, ?_⟩, rfl⟩
  · exact haccess d (0 : Fin 7) (0 : Fin 7) (3 : Fin 7) _ (.inl rfl) (fun c _ y _ => hsettled y)
      List.mem_cons_self (.head hbinder (.single hwrapped)) rfl ⟨_, rfl, .refl⟩
  · obtain rfl : inner = [.mk "g" []] := Except.ok.inj (hinner.symm.trans rfl)
    exact List.mem_singleton_self _
  · obtain rfl : outer = [.mk "w" []] := Except.ok.inj (houter.symm.trans rfl)
    simp

end Landscape

end StubClass
