import StubClass.Proofs.Class.Calling

set_option autoImplicit false

/-! # Functions that share their code

A check of access sees the code that calls, and not the function that runs it. What is reached from
an allowed class, or was made while such a function was running, runs code of that class
(`Program.hasCode_of_makes`), so it is let in. Other functions may run the same code: the wrappers
that one decorator makes share theirs, whatever they wrap. `Program.perform_by` says that these are
the only ones from outside that are let in. -/

namespace StubClass

open Relation
open StubClass.Random (Source)

/-- A landscape with the functions that were running when others were made. A function is made of
code that stands among the constants of the running one. -/
structure Program extends Landscape where
  maker? : Fin size → Option (Fin size)
  contains_of_maker : ∀ f g k, maker? f = some g → (facet f).code? = some k →
    ∃ c, (facet g).code? = some c ∧ c.Contains k

namespace Program

variable (P : Program)

/-! ## Inside and outside -/

/-- A function was running when another one was made. -/
def Makes (g f : Fin P.size) : Prop :=
  P.maker? f = some g

/-- A function is reached from a class: it is a member, is held by a layer behind one, or is wrapped
there. -/
def Reaches (c z : Fin P.size) : Prop :=
  ∃ x ∈ (P.facet c).members, ∃ y, ReflTransGen P.Holds x y ∧ (P.facet y).layer? = none ∧
    ReflTransGen P.Wraps y z

variable (d : MethodDefinition) (owner : Fin P.size)

/-- A function is reached from a class whose code may call a member. -/
def IsReached (z : Fin P.size) : Prop :=
  ∃ c, P.IsAllowed d owner c ∧ P.Reaches c z

/-- A function is reached, or was made inside one that is reached. -/
def IsInside (f : Fin P.size) : Prop :=
  ∃ z, P.IsReached d owner z ∧ ReflTransGen P.Makes z f

/-- A function that is not inside runs code of a function that is reached, or code nested there. -/
def Borrows (f : Fin P.size) : Prop :=
  ¬ P.IsInside d owner f ∧
    ∃ z k, P.IsReached d owner z ∧ (P.facet f).code? = some k ∧ P.HasCode z k

variable {P d owner}

/-- What was made inside a function runs code of that function. -/
theorem hasCode_of_makes {z f : Fin P.size} (h : ReflTransGen P.Makes z f) {k : Code}
    (hk : (P.facet f).code? = some k) : P.HasCode z k := by
  induction h generalizing k with
  | refl => exact ⟨k, hk, .refl⟩
  | tail _ hmakes ih =>
      obtain ⟨c, hc, hcontains⟩ := P.contains_of_maker _ _ _ hmakes hk
      obtain ⟨root, hroot, hnested⟩ := ih hc
      exact ⟨root, hroot, hnested.tail hcontains⟩

/-- The code of a function may call a member that is not public just when the function is inside or
borrows its code. -/
theorem mayCall_iff (hd : d.visibility.isPublic = false) {f : Fin P.size} {k : Code}
    (hk : (P.facet f).code? = some k) :
    P.MayCall d owner (some k) ↔ P.IsInside d owner f ∨ P.Borrows d owner f := by
  have hmay : P.MayCall d owner (some k) ↔ ∃ z, P.IsReached d owner z ∧ P.HasCode z k := by
    simp only [Landscape.MayCall, hd, Bool.false_eq_true, false_or, Option.some.injEq,
      exists_eq_left']
    constructor
    · rintro ⟨c, hc, x, hx, y, z, hxy, hbare, hyz, hz⟩
      exact ⟨z, ⟨c, hc, x, hx, y, hxy, hbare, hyz⟩, hz⟩
    · rintro ⟨z, ⟨c, hc, x, hx, y, hxy, hbare, hyz⟩, hz⟩
      exact ⟨c, hc, x, hx, y, z, hxy, hbare, hyz, hz⟩
  rw [hmay]
  constructor
  · rintro ⟨z, hreached, hz⟩
    by_cases hinside : P.IsInside d owner f
    · exact .inl hinside
    · exact .inr ⟨hinside, z, k, hreached, hk, hz⟩
  · rintro (⟨z, hreached, hmakes⟩ | ⟨-, z, l, hreached, hl, hz⟩)
    · exact ⟨z, hreached, hasCode_of_makes hmakes hk⟩
    · obtain rfl : k = l := Option.some.inj (hk.symm.trans hl)
      exact ⟨z, hreached, hz⟩

/-! ## Calls by functions -/

variable (P)

/-- A scene of a program in which some code is calling. -/
def scene (classAt : Nat → Fin P.size) (receiver : Fin P.size) (caller : Code) : Scene :=
  ⟨P.toLandscape.plain, classAt, receiver, caller⟩

/-- **Only borrowed code gets in from outside.** Let a function of a program call a member that is
not public. When it is reached from an allowed class, or was made inside a function that is, the
call is let through. When it is neither, the call is refused with an error about the member and its
owner, whatever its arguments are, unless the function borrows the code of a reached one; and then
the call is let through as if it came from inside. -/
theorem perform_by (x : Member) (hpublic : x.definition.visibility.isPublic = false)
    (classAt : Nat → Fin P.size) (receiver : Fin P.size) {f : Fin P.size} {k : Code}
    (hk : (P.facet f).code? = some k)
    (hsettled : ∀ c, P.IsAllowed x.definition ((P.scene classAt receiver k).owner x) c →
      ∀ y ∈ (P.facet c).members, P.IsSettled y)
    (look : Look) (a : Arguments) (before : Source) :
    let scene := P.scene classAt receiver k
    let owner : Fin P.size := scene.owner x
    let outcome := x.perform look (.call scene) a before
    (P.IsInside x.definition owner f → outcome = x.invoke look x.resolver.resolve a before) ∧
      (¬ P.IsInside x.definition owner f → ¬ P.Borrows x.definition owner f →
        outcome = (.error (.access x.definition.name x.definition.visibility
          (P.facet owner).title), before)) ∧
      (P.Borrows x.definition owner f → outcome = x.invoke look x.resolver.resolve a before) := by
  intro scene owner outcome
  obtain ⟨hallowed, hrefused⟩ :=
    P.checkAccess_caller x.definition owner k fun _ => hsettled
  rw [mayCall_iff hpublic hk] at hallowed hrefused
  have hcheck : Way.check x (.call scene) = P.checkAccess x.definition owner (some k) := rfl
  have hthrough : P.checkAccess x.definition owner (some k) = .ok () →
      outcome = x.invoke look x.resolver.resolve a before := by
    intro hok
    show x.perform look (.call scene) a before = _
    rw [Member.perform, hcheck, hok]
  refine ⟨fun h => hthrough (hallowed.2 (.inl h)), fun hinside hborrows => ?_,
    fun h => hthrough (hallowed.2 (.inr h))⟩
  show x.perform look (.call scene) a before = _
  rw [Member.perform, hcheck, hrefused.2 (not_or.2 ⟨hinside, hborrows⟩)]
  rfl

/-- A class with a member that a decorator made around a function, the decorator, and a function
outside with what the decorator made around it. -/
def decorated : Program where
  size := 6
  facet
    | 0 => { (Facet.blank : Facet (Fin 6)) with title := .ofText "Base", members := [1] }
    | 1 => { (Facet.blank : Facet (Fin 6)) with code? := some (.mk "inner" []), wrapped? := some 2 }
    | 2 => { (Facet.blank : Facet (Fin 6)) with code? := some (.mk "f" []) }
    | 3 => { (Facet.blank : Facet (Fin 6)) with code? := some (.mk "deco" [.mk "inner" []]) }
    | 4 => { (Facet.blank : Facet (Fin 6)) with code? := some (.mk "inner" []), wrapped? := some 5 }
    | 5 => { (Facet.blank : Facet (Fin 6)) with code? := some (.mk "g" []) }
  maker? f := if f = 1 ∨ f = 4 then some 3 else none
  contains_of_maker f g k hmaker hk := by
    split at hmaker
    · next hf =>
        cases hmaker
        rcases hf with rfl | rfl <;> cases hk <;> exact ⟨_, rfl, List.mem_singleton_self _⟩
    · cases hmaker

/-- Only the decorated member and what it wraps are inside, for a private member. -/
theorem isInside_decorated {d : MethodDefinition} (hd : d.visibility = .privateMember)
    {f : Fin 6} (h : decorated.IsInside d (0 : Fin 6) f) : f.val = 1 ∨ f.val = 2 := by
  have hholds : ∀ y z, ¬ decorated.Holds y z := by decide
  have hwraps : ∀ y z, (decorated.facet y).wrapped? = some z → y.val = 1 ∨ y.val = 2 →
      z.val = 1 ∨ z.val = 2 := by decide
  have hmakes : ∀ y z, decorated.maker? z = some y → y.val = 3 := by decide
  obtain ⟨z, ⟨c, hc, x, hx, y, hxy, -, hyz⟩, hzf⟩ := h
  obtain rfl : c = (0 : Fin 6) := hc.resolve_right fun ⟨hprotected, _⟩ => by
    rw [hd] at hprotected
    cases hprotected
  obtain rfl : x = (1 : Fin 6) := List.mem_singleton.1 hx
  obtain rfl : y = (1 : Fin 6) := by
    rcases ReflTransGen.cases_head hxy with rfl | ⟨w, hw, -⟩
    · rfl
    · exact absurd hw (hholds _ _)
  have hz : z.val = 1 ∨ z.val = 2 := by
    clear hzf
    induction hyz with
    | refl => exact .inl rfl
    | tail _ hstep ih => exact hwraps _ _ hstep ih
  rcases ReflTransGen.cases_head hzf with rfl | ⟨w, hw, -⟩
  · exact hz
  · have hval := hmakes _ _ hw
    omega

theorem not_borrows_decorated {d : MethodDefinition} (hd : d.visibility = .privateMember) :
    ¬ decorated.Borrows d (0 : Fin 6) (5 : Fin 6) := by
  rintro ⟨-, z, k, hz, hk, root, hroot, hnested⟩
  cases hk
  -- the code of what is reached has no constants, so it would be that of the function itself
  obtain ⟨text, hleaf, htext⟩ : ∃ text, (decorated.facet z).code? = some (.mk text []) ∧
      text ≠ "g" := by
    obtain rfl | rfl : z = (1 : Fin 6) ∨ z = (2 : Fin 6) := by
      rcases isInside_decorated hd ⟨z, hz, .refl⟩ with h | h
      · exact .inl (Fin.ext h)
      · exact .inr (Fin.ext h)
    · exact ⟨_, rfl, by decide⟩
    · exact ⟨_, rfl, by decide⟩
  obtain rfl : root = .mk text [] := Option.some.inj (hroot.symm.trans hleaf)
  rcases ReflTransGen.cases_head hnested with h | ⟨l, hl, -⟩
  · cases h
    exact htext rfl
  · cases hl

/-- The function outside is refused. What the decorator makes around it is not inside either, but it
runs the code of the member, and is let in. -/
theorem perform_by_decorated :
    let d : MethodDefinition := ⟨.str "p", .privateMember, [], .int 42, false⟩
    ∃ x, Member.create .standard d = .ok x ∧ ∀ before : Source,
      let call (k : Code) := x.perform .plain
        (.call (decorated.scene (fun _ => (0 : Fin 6)) (0 : Fin 6) k)) ⟨[], []⟩ before
      (¬ decorated.IsInside d (0 : Fin 6) (5 : Fin 6) ∧
          call (.mk "g" []) =
            (.error (.access (.str "p") .privateMember (.ofText "Base")), before)) ∧
        ¬ decorated.IsInside d (0 : Fin 6) (4 : Fin 6) ∧
          call (.mk "inner" []) = (.ok (.int 42), before) := by
  intro d
  refine ⟨_, rfl, fun before => ?_⟩
  intro call
  have hsettled : ∀ c, ∀ y ∈ (decorated.facet c).members, decorated.IsSettled y :=
    fun _ y _ => Landscape.isSettled_of_lt (by decide) y
  have hreached : decorated.IsReached d (0 : Fin 6) (1 : Fin 6) :=
    ⟨_, .inl rfl, _, List.mem_singleton_self _, _, .refl, rfl, .refl⟩
  have houtside : ∀ f : Fin 6, 3 ≤ f.val → ¬ decorated.IsInside d (0 : Fin 6) f := by
    intro f hf h
    have hval := isInside_decorated rfl h
    omega
  refine ⟨⟨houtside 5 (by decide), ?_⟩, houtside 4 (by decide), ?_⟩
  · have hborrows := not_borrows_decorated (d := d) rfl
    exact (decorated.perform_by _ rfl (fun _ => (0 : Fin 6)) (0 : Fin 6) (f := (5 : Fin 6)) rfl
      (fun c _ => hsettled c) .plain ⟨[], []⟩ before).2.1 (houtside 5 (by decide)) hborrows
  · have hborrows : decorated.Borrows d (0 : Fin 6) (4 : Fin 6) :=
      ⟨houtside 4 (by decide), _, _, hreached, rfl, _, rfl, .refl⟩
    exact (decorated.perform_by _ rfl (fun _ => (0 : Fin 6)) (0 : Fin 6) (f := (4 : Fin 6)) rfl
      (fun c _ => hsettled c) .plain ⟨[], []⟩ before).2.2 hborrows

end Program

end StubClass
