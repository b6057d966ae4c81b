import StubClass.Generator.System
import StubClass.Proofs.Class.Growing
import StubClass.Proofs.Correspondence.Steps
import StubClass.Proofs.Generator.State
import StubClass.Proofs.Method.Look

set_option autoImplicit false

/-! # What work leaves of generators and classes

Each step keeps what was there: members and classes get more behind them, definitions are added at
the ends, and builders keep their places (`SystemStep.perform_keeps`). So do the parts of a
declaration besides its callback. What they do to a generator is what is done to it apart from
everything else: work on one generator and on all correspond, declarations included, so a course of
work with one generator does the same whether there is anything else or not (`Course.run_within`).
-/

namespace StubClass

/-- What is built by a look is built. -/
theorem Registry.build_of_buildNow {r built : Registry} {look : Look} {settings : Settings}
    {ds : List MethodDefinition} (h : r.buildNow look settings ds = .ok built) :
    r.build settings ds = .ok built := by
  unfold buildNow at h
  cases hlooked : r.build settings (ds.map (MethodDefinition.looked look)) with
  | error e => simp [hlooked, bind, Except.bind] at h
  | ok _ =>
      rw [hlooked] at h
      exact h

namespace SystemState

/-! ## What stays -/

/-- What there still is of an earlier state. -/
structure Extends (new old : SystemState) : Prop where
  registry : new.registry.Extends old.registry
  sound : old.registry.IsSound → new.registry.IsSound
  generators : ∀ (i : Nat) (g : GeneratorState), old.generators[i]? = some g →
    ∃ g', new.generators[i]? = some g' ∧ g'.Extends g
  frozen : old.frozen <+: new.frozen

namespace Extends

theorem refl (p : SystemState) : p.Extends p where
  registry := .refl _
  sound := id
  generators _ g h := ⟨g, h, .refl g⟩
  frozen := List.prefix_rfl

theorem trans {a b c : SystemState} (hcb : c.Extends b) (hba : b.Extends a) : c.Extends a where
  registry := hcb.registry.trans hba.registry
  sound := hcb.sound ∘ hba.sound
  generators i old h := by
    obtain ⟨middle, hmiddle, hold⟩ := hba.generators i old h
    obtain ⟨new, hnew, hextends⟩ := hcb.generators i middle hmiddle
    exact ⟨new, hnew, hextends.trans hold⟩
  frozen := hba.frozen.trans hcb.frozen

/-- What objects look like and what the source has answered does not count. -/
theorem of_look_source (p : SystemState) (look : Look) (source : Random.Source) :
    Extends { p with look, source } p :=
  ⟨.refl _, id, fun _ g h => ⟨g, h, .refl g⟩, List.prefix_rfl⟩

/-- A generator at its place may become one that has more. -/
theorem of_generator {p : SystemState} {i : Nat} {g next : GeneratorState}
    (hg : p.generators[i]? = some g) (h : next.Extends g) :
    Extends { p with generators := p.generators.set i next } p where
  registry := .refl _
  sound := id
  generators j old hold := by
    by_cases hplace : i = j
    · subst hplace
      obtain rfl : g = old := by simpa [hg] using hold
      exact ⟨next, List.getElem?_set_self (List.getElem?_eq_some_iff.1 hold).1, h⟩
    · exact ⟨old, (List.getElem?_set_ne hplace).trans hold, .refl old⟩
  frozen := List.prefix_rfl

end Extends

/-! ## Work that keeps what was there -/

/-- Whether whatever is done leaves a state that has what was there. -/
def Keeps {α : Type} (x : WorkOn SystemState α) : Prop :=
  ∀ p : SystemState, (x.run p).2.Extends p

variable {α β : Type}

theorem Keeps.bind {x : WorkOn SystemState α} {f : α → WorkOn SystemState β} (hx : Keeps x)
    (hf : ∀ a, Keeps (f a)) : Keeps (x >>= f) := fun p => by
  have hp := hx p
  rw [run_bind]
  rcases hrun : x.run p with ⟨e | a, after⟩
  · rwa [hrun] at hp
  · rw [hrun] at hp
    exact (hf a after).trans hp

theorem Keeps.of_get {f : SystemState → WorkOn SystemState α} (hf : ∀ p, Keeps (f p)) :
    Keeps (get >>= f) :=
  .bind (fun p => .refl p) hf

theorem Keeps.of_except (x : Except Error α) : Keeps (liftM x : WorkOn SystemState α) := fun p => by
  cases x <;> exact .refl p

variable (p : SystemState) (i : Nat)

theorem atGenerator_run (x : WorkOn GeneratorState α) :
    (atGenerator i x).run p =
      match p.generators[i]? with
      | none => (.error (nothingThere "generator"), p)
      | some g => ((x.run g).1, { p with generators := p.generators.set i (x.run g).2 }) :=
  rfl

/-- Work with a generator keeps what was there if it does so with the generator alone. -/
theorem atGenerator_keeps {x : WorkOn GeneratorState α} (h : ∀ g, (x.run g).2.Extends g) :
    Keeps (atGenerator i x) := fun p => by
  rw [atGenerator_run]
  cases hg : p.generators[i]? with
  | none => exact .refl p
  | some g => exact .of_generator hg (h g)

theorem buildOf_keeps (settings : Settings) (ds : List MethodDefinition) :
    Keeps (buildOf settings ds) := fun p => by
  show (buildOf settings ds p).2.Extends p
  unfold buildOf
  cases hbuild : p.registry.buildNow p.look settings ds with
  | error e => exact .refl p
  | ok built =>
      have hbuilt := Registry.build_of_buildNow hbuild
      exact ⟨Registry.build_extends hbuilt, Registry.build_isSound hbuilt,
        fun _ g h => ⟨g, h, .refl g⟩, List.prefix_rfl⟩

end SystemState

open SystemState in
/-- Every step keeps what was there. -/
theorem SystemStep.perform_keeps (x : SystemStep) : Keeps x.perform := by
  cases x with
  | openGenerator settings =>
      refine fun p => ⟨.refl _, id, fun i g h => ⟨g, ?_, .refl g⟩, List.prefix_rfl⟩
      show (p.generators ++ _)[i]? = some g
      rw [List.getElem?_append_left (List.getElem?_eq_some_iff.1 h).1]
      exact h
  | openBuilder i name visibility =>
      exact .of_get fun p => .bind (.of_except _) fun b =>
        atGenerator_keeps i fun g => g.place_extends b
  | giveVerb i place v =>
      exact .of_get fun p => atGenerator_keeps i fun g => g.giveVerb_extends place (v.looked p.look)
  | freeze i place =>
      intro p
      show (SystemState.freeze i place p).2.Extends p
      unfold SystemState.freeze
      cases p.generators[i]?.bind fun g => g.builders[place]? with
      | none => exact .refl p
      | some b => exact ⟨.refl _, id, fun _ g h => ⟨g, h, .refl g⟩, List.prefix_append _ _⟩
  | build i =>
      intro p
      show (SystemState.build i p).2.Extends p
      unfold SystemState.build
      cases p.generators[i]? with
      | none => exact .refl p
      | some g => exact buildOf_keeps _ _ p
  | buildOf settings ds => exact buildOf_keeps settings ds
  | call place way a =>
      intro p
      show (SystemState.call place way a p).2.Extends p
      unfold SystemState.call
      cases p.registry.members[place]? with
      | none => exact .refl p
      | some x => exact .of_look_source p p.look _
  | change look => exact fun p => .of_look_source p look p.source

namespace SystemState

/-! ## Declarations -/

variable (i : Nat)

theorem opening_keeps (name : Value) (visibility : Visibility) :
    Keeps (actions.opening i name visibility) := by
  have hstart (name : Value) : Keeps (atGenerator i (GeneratorState.start name visibility)) :=
    atGenerator_keeps i fun g => by
      rw [GeneratorState.start_run]
      exact .refl g
  refine .bind (.of_get fun p => hstart _) fun b =>
    .bind (atGenerator_keeps i fun g => .refl g) fun isDeclared => ?_
  cases isDeclared with
  | true => exact fun p => .refl p
  | false =>
      exact .bind (atGenerator_keeps i fun g => g.place_extends b) fun place p => .refl p

theorem closing_keeps (b : MethodBuilder) (place : Nat) : Keeps (actions.closing i b place) := by
  refine .bind (atGenerator_keeps i fun g => .refl g) fun b =>
    .bind (atGenerator_keeps i fun g => g.keep_extends b.freeze) fun _ => .of_get fun p => ?_
  -- what is kept is written last, and writing changes nothing
  show Keeps (discard (ExceptT.mk (pure (b.freeze.looked p.look).written)))
  cases (b.freeze.looked p.look).written <;> exact fun p => .refl p

end SystemState

/-! ## One generator among others -/

namespace SystemState

/-- Whether work does with the generator at a place what other work does with it alone, as long as
everything looks as it is known. -/
def DoesWithin (i : Nat) {α : Type} (y : WorkOn SystemState α) (x : WorkOn GeneratorState α) :
    Prop :=
  ∀ (p : SystemState) (g : GeneratorState), p.generators[i]? = some g → p.look = .plain →
    y.run p = ((x.run g).1, { p with generators := p.generators.set i (x.run g).2 })

/-- What work comes to on the generator at a place stands for what other work comes to on
everything. -/
def IsDoneAt (i : Nat) (p : SystemState) {α β : Type} (R : α → β → Prop) :
    Except Error α × GeneratorState → Except Error β × SystemState → Prop
  | (.ok a, g), (.ok b, after) => R a b ∧ after = { p with generators := p.generators.set i g }
  | (.error e, g), (.error f, after) =>
    e = f ∧ after = { p with generators := p.generators.set i g }
  | _, _ => False

/-- How work on one generator corresponds to work on all, as long as everything looks as it is
known. -/
def within (i : Nat) : Correspondence (WorkOn GeneratorState) (WorkOn SystemState) where
  Situation := Unit
  IsLater _ _ := True
  trans _ _ := trivial
  Rel R j x y := ∀ (p : SystemState) (g : GeneratorState), p.generators[i]? = some g →
    p.look = .plain → IsDoneAt i p (R j) (x.run g) (y.run p)
  pure {α β R j a b} h p g hg _ := by
    obtain ⟨hi, rfl⟩ := List.getElem?_eq_some_iff.1 hg
    exact ⟨h, by rw [List.set_getElem_self hi]⟩
  bind {α β γ δ R S j x y f k} h hnext p g hg hlook := by
    have hdone := h p g hg hlook
    rw [run_bind, run_bind]
    rcases hx : x.run g with ⟨e | a, g'⟩ <;> rcases hy : y.run p with ⟨e' | b, after⟩ <;>
      rw [hx, hy] at hdone
    case error.error => exact hdone
    case error.ok => exact hdone.elim
    case ok.error => exact hdone.elim
    case ok.ok =>
      obtain ⟨hab, rfl⟩ := hdone
      have hg' : (p.generators.set i g')[i]? = some g' :=
        List.getElem?_set_self (List.getElem?_eq_some_iff.1 hg).1
      have hrest := hnext () trivial a b hab { p with generators := p.generators.set i g' } g' hg'
        hlook
      simpa only [IsDoneAt, List.set_set] using hrest

theorem isDoneAt_eq_iff {i : Nat} {p : SystemState} {α : Type}
    (r : Except Error α × GeneratorState) (t : Except Error α × SystemState) :
    IsDoneAt i p Eq r t ↔ t = (r.1, { p with generators := p.generators.set i r.2 }) := by
  obtain ⟨e | a, g⟩ := r <;> obtain ⟨e' | b, after⟩ := t <;> simp [IsDoneAt, eq_comm]

theorem within_same_iff {i : Nat} {α : Type} {x : WorkOn GeneratorState α}
    {y : WorkOn SystemState α} : (within i).Same () x y ↔ DoesWithin i y x :=
  forall_congr' fun _ => forall_congr' fun _ => imp_congr_right fun _ => imp_congr_right fun _ =>
    isDoneAt_eq_iff _ _

namespace DoesWithin

variable {i : Nat} {α β : Type}

theorem atGenerator (x : WorkOn GeneratorState α) :
    DoesWithin i (SystemState.atGenerator i x) x := fun p g hg _ => by
  rw [atGenerator_run, hg]

/-- What changes nothing does so within everything else. -/
theorem of_same {y : WorkOn SystemState α} {x : WorkOn GeneratorState α} {answer : Except Error α}
    (hy : ∀ p, p.look = .plain → y.run p = (answer, p)) (hx : ∀ g, x.run g = (answer, g)) :
    DoesWithin i y x := fun p g hg hlook => by
  obtain ⟨hi, rfl⟩ := List.getElem?_eq_some_iff.1 hg
  rw [hy p hlook, hx, List.set_getElem_self hi]

theorem bind {y : WorkOn SystemState α} {x : WorkOn GeneratorState α} (h : DoesWithin i y x)
    {y' : α → WorkOn SystemState β} {x' : α → WorkOn GeneratorState β}
    (h' : ∀ a, DoesWithin i (y' a) (x' a)) : DoesWithin i (y >>= y') (x >>= x') :=
  within_same_iff.1 ((within i).bind (within_same_iff.2 h) fun _ _ a _ hab =>
    hab ▸ within_same_iff.2 (h' a))

theorem told {y : WorkOn SystemState α} {x : WorkOn GeneratorState α} (h : DoesWithin i y x) :
    DoesWithin i y.told x.told := fun p g hg hlook => by
  show (Except.ok (y.run p).1, (y.run p).2) = _
  rw [h p g hg hlook]
  rfl

theorem of_get {y : SystemState → WorkOn SystemState α} {x : WorkOn GeneratorState α}
    (h : ∀ p : SystemState, p.look = .plain → DoesWithin i (y p) x) :
    DoesWithin i (get >>= y) x := fun p g hg hlook => by
  have hget : (get : WorkOn SystemState SystemState).run p = (.ok p, p) := rfl
  rw [run_bind_ok hget]
  exact h p hlook p g hg hlook

theorem giveVerb (place : Nat) (v : Verb) :
    DoesWithin i (SystemState.giveVerb i place v) (GeneratorState.giveVerb place v) :=
  .of_get fun p hlook => by
    rw [hlook, v.looked_plain]
    exact .atGenerator _

theorem keep (d : MethodDefinition) :
    DoesWithin i (keepAndLog i d) (GeneratorState.keepAndLog d) := by
  refine .bind (.atGenerator _) fun _ => .of_get fun p hlook => ?_
  rw [hlook, d.looked_plain]
  cases d.written <;> exact .of_same (fun _ _ => rfl) fun _ => rfl

/-- A declaration does so if its callback does. -/
theorem declare (name : Value) (visibility : Visibility)
    {callback : Nat → WorkOn SystemState Unit} {callback' : Nat → WorkOn GeneratorState Unit}
    (h : ∀ place, DoesWithin i (callback place) (callback' place)) :
    DoesWithin i (actions.declaring i name visibility callback).run
      (GeneratorState.actions.declaring () name visibility callback').run := by
  have hstart : DoesWithin i (actions.start i name visibility)
      (GeneratorState.actions.start () name visibility) :=
    .of_get fun p hlook => by
      rw [hlook, Value.looked_eq_self (.inr rfl)]
      exact .atGenerator _
  have hconfigure (b : MethodBuilder) := DoesWithin.bind (.atGenerator (GeneratorState.openFor b))
    fun place => .bind (h place) fun _ => .atGenerator (GeneratorState.reached b place)
  have hparts : Declaring.Corresponds (within i) (fun _ => Eq) (fun _ => Eq)
      (GeneratorState.actions.declaring () name visibility callback')
      (actions.declaring i name visibility callback) :=
    { start := fun _ => within_same_iff.2 hstart
      isDeclared := fun _ b _ hb =>
        hb ▸ within_same_iff.2 (.atGenerator (GeneratorState.isDeclared b))
      refuse := fun _ b _ hb => hb ▸ within_same_iff.2 (.of_same (fun _ _ => rfl) fun _ => rfl)
      configure := fun _ b _ hb => hb ▸ within_same_iff.2 (hconfigure b)
      freeze := fun _ b _ hb => hb ▸ (within i).pure rfl
      keep := fun _ d _ hd => hd ▸ within_same_iff.2 (.keep d) }
  exact within_same_iff.1 (hparts.run (fun _ _ _ _ _ hb => hb) ())

end DoesWithin

end SystemState

namespace Course

/-- A course of work with a generator that stands at a place among others. -/
def within (i : Nat) : GeneratorCourse → SystemCourse
  | done => done
  | fail e => fail e
  | look next => look fun p =>
    match p.generators[i]? with
    | some g => (next g).within i
    | none => fail (SystemState.nothingThere "generator")
  | step x next =>
    Course.step (A := SystemState.actions) (.giveVerb i x.1 x.2) fun answer =>
      (next answer).within i
  | declare _ name visibility callback next =>
    Course.declare (A := SystemState.actions) i name visibility
      (fun place => (callback place).within i) fun answer => (next answer).within i

open SystemState in
theorem perform_within (i : Nat) (c : GeneratorCourse) :
    DoesWithin i (c.within i).perform c.perform := by
  induction c with
  | done => exact .of_same (fun _ _ => rfl) fun _ => rfl
  | fail e => exact .of_same (fun _ _ => rfl) fun _ => rfl
  | look next ih =>
      intro p g hg hlook
      have hlooked (next : SystemState → SystemCourse) :
          (look next).perform.run p = (next p).perform.run p := rfl
      rw [within, hlooked, hg]
      simp only
      rw [ih g p g hg hlook]
      rfl
  | step x next ih => exact .bind (.told (.giveVerb x.1 x.2)) fun answer => ih answer
  | declare site name visibility callback next ihcallback ihnext =>
      exact .bind (.told (.declare name visibility ihcallback)) fun answer => ihnext answer

/-- **A course of work with a generator does the same among others.** As long as everything looks as
it is known, it comes to the same as with the generator alone, which becomes the same, and
everything else stays as it is. -/
theorem run_within (i : Nat) (c : GeneratorCourse) {p : SystemState} {g : GeneratorState}
    (hg : p.generators[i]? = some g) (hlook : p.look = .plain) :
    (c.within i).run p = ((c.run g).1, { p with generators := p.generators.set i (c.run g).2 }) :=
  perform_within i c p g hg hlook

end Course

end StubClass
