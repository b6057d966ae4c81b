import StubClass.Proofs.Class.Calling
import StubClass.Proofs.Generator.System

set_option autoImplicit false

/-! # Built classes stay as they are

Work with generators and classes adds to what is there and takes nothing away, in callbacks as well
(`Course.run_passes`), so at each stage everything that can be asked of a class comes to what it
came to when the class was built. What its members answer is settled by them, but for the answers of
the source and for the words of a refusal (`Member.call_run`). `Course.stages_stay` puts this
together. -/

namespace StubClass

open StubClass.Random (Source)

/-! ## Stages -/

/-- The states at the beginning of every step and at the end of every course are noted. -/
def SystemState.staging : Record SystemState.actions SystemState where
  ended p := [p]
  step _ p := [p]
  started p := [p]
  closing _ _ _ _ := []

/-- The states before and after every step of a course, in callbacks as well. -/
def Course.stages (c : SystemCourse) (p : SystemState) : List SystemState :=
  c.record SystemState.staging p

/-- What goes through stages from a state to another, where nothing goes away. -/
structure Passes (stages : List SystemState) (p last : SystemState) : Prop where
  whole : last.Extends p
  before : ∀ q ∈ stages, q.Extends p
  behind : ∀ q ∈ stages, last.Extends q
  inOrder : stages.Pairwise fun earlier later => later.Extends earlier

namespace Passes

theorem direct {p last : SystemState} (h : last.Extends p) : Passes [] p last :=
  ⟨h, by simp, by simp, .nil⟩

theorem start {p last : SystemState} (h : last.Extends p) : Passes [p] p last :=
  ⟨h, by simpa using .refl p, by simpa using h, List.pairwise_singleton _ _⟩

theorem append {stages further : List SystemState} {p middle last : SystemState}
    (h : Passes stages p middle) (h' : Passes further middle last) :
    Passes (stages ++ further) p last where
  whole := h'.whole.trans h.whole
  before q hq := (List.mem_append.1 hq).elim (h.before q) fun hq => (h'.before q hq).trans h.whole
  behind q hq :=
    (List.mem_append.1 hq).elim (fun hq => h'.whole.trans (h.behind q hq)) (h'.behind q)
  -- from a stage of the first part to one of the second it goes by the middle
  inOrder := List.pairwise_append.2 ⟨h.inOrder, h'.inOrder, fun q hq r hr =>
    (h'.before r hr).trans (h.behind q hq)⟩

end Passes

/-- Whatever a course does, it goes through its stages, and nothing goes away. -/
theorem Course.run_passes (c : SystemCourse) (p : SystemState) :
    Passes (c.stages p) p (c.run p).2 := by
  have htells : SystemState.staging.Tells Passes :=
    { nil := fun p => .direct (.refl p)
      append := .append
      ended := fun p => .start (.refl p)
      step := fun x p => .start (x.perform_keeps p)
      opening := fun i name visibility p => .start (SystemState.opening_keeps i name visibility p)
      closing := fun i _ _ _ b place _ _ after _ _ =>
        .direct (SystemState.closing_keeps i b place after) }
  exact htells.run c p

/-! ## What members answer -/

namespace Member

variable (x : Member)

/-- What a member answers in a state. Whether a call may be made and whether its arguments fit is
settled by the member. A refusal of arguments is worded by what the signature looks like; a literal
is returned itself; and else the source is asked. -/
def answerOn (p : SystemState) (way : Way) (a : Arguments) : Except Error Value × SystemState :=
  match way.check x with
  | .error e => (.error e, p)
  | .ok () =>
    match a.fault? x.definition.parameters with
    | some fault => (.error (x.refusal p.look fault), p)
    | none =>
      match x.resolver with
      | .literal v => (.ok v, p)
      | .random v settings =>
        let (answer, source) := v.drawIfMarker settings p.source
        (answer, { p with source })

theorem call_run {p : SystemState} {place : Nat} (hx : p.registry.members[place]? = some x)
    (way : Way) (a : Arguments) : (SystemState.call place way a).run p = x.answerOn p way a := by
  show SystemState.call place way a p = _
  rw [SystemState.call, hx, answerOn]
  simp only [perform_eq]
  cases way.check x with
  | error e => rfl
  | ok u =>
      cases a.fault? x.definition.parameters with
      | some fault => rfl
      | none => cases x.resolver <;> rfl

/-- How the member at a place answers in a state. -/
structure Answers (place : Nat) (p : SystemState) : Prop where
  call : ∀ (way : Way) (a : Arguments), (SystemState.call place way a).run p = x.answerOn p way a
  /-- Unless a default holds an object that may change, a refusal has the words that it always has.
  -/
  words : (∀ q ∈ x.definition.parameters, q.default.holdsObject = false) →
    ∀ fault, x.refusal p.look fault = .arity x.definition.name x.signature.text fault
  /-- What is changed in place is seen through every member that returns it. -/
  seen : ∀ v, x.resolver = .literal v → ∀ (way : Way) (a : Arguments), way.check x = .ok () →
    a.fault? x.definition.parameters = none → ∀ look : Look,
      let changed := ((SystemState.change look).run p).2
      ((SystemState.call place way a).run changed).1.map (Value.looked changed.look) =
        .ok (v.looked look)

variable {x}

theorem answers {p : SystemState} {place : Nat} (hx : p.registry.members[place]? = some x) :
    x.Answers place p where
  call := x.call_run hx
  words h fault := Stub.refusal_eq x.created (.inl h) fault
  seen v hv way a hcheck hfits look := by
    intro changed
    have hchanged : changed.registry.members[place]? = some x := hx
    rw [x.call_run hchanged, answerOn, hcheck, hfits, hv]
    rfl

end Member

namespace SystemState

/-! ## What verbs leave -/

/-- A verb changes nothing but builders. -/
theorem giveVerb_leaves (p : SystemState) (i place : Nat) (v : Verb) :
    let after := ((giveVerb i place v).run p).2
    after.registry = p.registry ∧ after.frozen = p.frozen ∧
      after.generators.map GeneratorState.generator =
        p.generators.map GeneratorState.generator := by
  have hrun : (giveVerb i place v).run p =
      (atGenerator i (GeneratorState.giveVerb place (v.looked p.look))).run p := rfl
  rw [hrun, atGenerator_run]
  cases hg : p.generators[i]? with
  | none => exact ⟨rfl, rfl, rfl⟩
  | some d =>
      refine ⟨rfl, rfl, ?_⟩
      -- the builders are other ones then, with the same generator
      obtain ⟨hplace, rfl⟩ := List.getElem?_eq_some_iff.1 hg
      show (p.generators.set i _).map GeneratorState.generator = _
      rw [List.map_set, GeneratorState.giveVerb_generator, ← List.map_set,
        List.set_getElem_self hplace]

/-! ## What stays -/

/-- What stays in a later state of what was in an earlier one. -/
structure Stays (earlier later : SystemState) : Prop where
  /-- The classes are there, with what they hold. -/
  classes : earlier.registry.classes <+: later.registry.classes
  /-- The same members are found on them, with their definitions, signatures and resolvers. -/
  memberOf? : ∀ order ⊆ earlier.registry.classes, ∀ name,
    later.registry.memberOf? order name = earlier.registry.memberOf? order name
  visibilityOf : ∀ order ⊆ earlier.registry.classes, ∀ name,
    later.registry.visibilityOf order name =
      earlier.registry.visibilityOf order name
  /-- Each member answers as it did. -/
  answers : ∀ c ∈ earlier.registry.classes, ∀ name place,
    c.own.place? name = some place →
      ∃ x, earlier.registry.memberOf? [c] name = some x ∧ x.Answers place later
  /-- The definitions that a generator had are there. -/
  definitions : ∀ (i : Nat) (g : GeneratorState), earlier.generators[i]? = some g →
    ∃ g', later.generators[i]? = some g' ∧ g'.generator.settings = g.generator.settings ∧
      g.generator.methods <+: g'.generator.methods ∧
      g.generator.classMethods <+: g'.generator.classMethods
  frozen : earlier.frozen <+: later.frozen
  /-- A verb changes no class, no definition that was frozen and none that a generator has. -/
  verb : ∀ (i place : Nat) (v : Verb),
    let after := ((giveVerb i place v).run later).2
    after.registry = later.registry ∧ after.frozen = later.frozen ∧
      after.generators.map GeneratorState.generator = later.generators.map GeneratorState.generator

theorem Extends.stays {earlier later : SystemState} (h : later.Extends earlier)
    (hsound : earlier.registry.IsSound) : earlier.Stays later where
  classes := h.registry.classes
  memberOf? _ horder name := Registry.memberOf?_of_extends h.registry hsound horder name
  visibilityOf order horder name := by
    unfold Registry.visibilityOf
    rw [Registry.memberOf?_of_extends h.registry hsound horder name]
  answers c hc name place hplace := by
    have hlength := hsound c hc place (Namespace.holds_of_place? hplace)
    have hx := List.getElem?_eq_getElem hlength
    refine ⟨earlier.registry.members[place], ?_, Member.answers ?_⟩
    · rw [Registry.memberOf?_singleton, hplace]
      exact hx
    · obtain ⟨added, hadded⟩ := h.registry.members
      rw [← hadded, List.getElem?_append_left hlength, hx]
  definitions i g hg := by
    obtain ⟨g', hg', hextends⟩ := h.generators i g hg
    exact ⟨g', hg', hextends.settings, hextends.methods, hextends.classMethods⟩
  frozen := h.frozen
  verb i place v := later.giveVerb_leaves i place v

end SystemState

namespace Course

/-- **What was built stays as it is, whatever is done.** Let anything be done, in callbacks as well:
declarations that succeed or fail, verbs on builders whose declarations are over, classes that are
built of the same definitions, calls, and changes in place. From each stage to each later one the
classes and their members, the definitions that generators have and those that were frozen stay, and
no verb that is then given to a builder changes any of them. A call of a member is settled by the
member alone, except that the source is asked for random values, that what is changed in place shows
in the literal that is returned, whichever class returns it, and that the error of arguments which
do not fit writes the defaults as they look then. -/
theorem stages_stay (c : SystemCourse) (source : Source) (look : Look) :
    (c.stages (.ofSource source look)).Pairwise SystemState.Stays := by
  have hpasses := c.run_passes (.ofSource source look)
  refine hpasses.inOrder.imp_of_mem fun hearlier _ h => h.stays ?_
  -- no class was there at the start, so at each stage all classes hold members that are there
  exact (hpasses.before _ hearlier).sound .empty

/-- A look in which something was put into every list. -/
def changedLists : Look where
  now
    | .list _ => .list [.null]
    | v => v
  builtinType_now v := by cases v <;> rfl

/-- The words of what a call came to, if it failed. -/
def wording? : Except Error Value → Option String
  | .ok _ => none
  | .error e => some e.message

/-- A member that returns a literal does not always answer as it did while its literal looks as it
did: a default may be changed in place, and the error of arguments that do not fit shows it. -/
theorem stages_changedDefault :
    ¬ ∀ (c : SystemCourse) (source : Source) (look : Look),
      (c.stages (.ofSource source look)).Pairwise fun earlier later =>
        ∀ place x v, earlier.registry.members[place]? = some x → x.resolver = .literal v →
          v.looked later.look = v.looked earlier.look → ∀ (way : Way) (a : Arguments),
            ((SystemState.call place way a).run later).1 =
              ((SystemState.call place way a).run earlier).1 := by
  intro h
  let d : MethodDefinition :=
    ⟨.str "m", .publicMember, [⟨.optional, ⟨.ofText "a", by decide +kernel⟩, .list []⟩],
      .null, false⟩
  let built := ((SystemState.buildOf .standard [d]).run (.ofSource (.fixed 0 "") .plain)).2
  let changed := ((SystemState.change changedLists).run built).2
  let way : Way := .send ⟨.ok false, .ok "<K object>"⟩ (.ofText "m")
  let a : Arguments := ⟨[.null, .null], []⟩
  have hstages : List.Pairwise _ [_, built, changed] :=
    h (.step (.buildOf .standard [d]) fun _ => .step (.change changedLists) fun _ => .done)
      (.fixed 0 "") .plain
  have hchanged := List.rel_of_pairwise_cons (List.pairwise_cons.1 hstages).2
    (List.mem_singleton_self changed)
  obtain ⟨x, hx, hresolver⟩ : ∃ x, built.registry.members[0]? = some x ∧
      x.resolver = .literal .null := ⟨_, rfl, rfl⟩
  have hsame := hchanged 0 x .null hx hresolver rfl way a
  have hdiffers : wording? ((SystemState.call 0 way a).run changed).1 ≠
      wording? ((SystemState.call 0 way a).run built).1 := by decide +kernel
  exact hdiffers (congrArg wording? hsame)

end Course

end StubClass
