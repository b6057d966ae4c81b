import StubClass.Proofs.Class.Calling
import StubClass.Proofs.Generator.System

set_option autoImplicit false

/-! # What calls ask of the source

Classes are built and members are called while declarations are made and objects are changed, in
callbacks as well. A log tells which classes were built and which members were called, one after
another. Nothing but a call touches the source, so the calls of a log hang together: each starts
from the source that the one before has left. And every member that is called was made of a
definition that its class was built of, within the settings of that class. Each part of a course
does so (`tells_logging`), and with the rules of a single call this says what the source is asked
for (`Course.run_calls`). -/

namespace StubClass

open StubClass.Random (Request Source)

/-! ## Logs -/

/-- A call of a member, with what objects looked like and the source that it started from. -/
structure Call where
  member : Member
  look : Look
  way : Way
  arguments : Arguments
  before : Source

namespace Call

/-- What the call came to. -/
def outcome (c : Call) : Except Error Value :=
  (c.member.perform c.look c.way c.arguments c.before).1

/-- The source that the call left. -/
def after (c : Call) : Source :=
  (c.member.perform c.look c.way c.arguments c.before).2

/-- Whether calls hang together from one source to another: each starts from what the one before has
left. -/
def Linked : Source → List Call → Source → Prop
  | start, [], last => last = start
  | start, c :: cs, last => c.before = start ∧ Linked c.after cs last

theorem Linked.append {cs ds : List Call} {start middle last : Source}
    (hcs : Linked start cs middle) (hds : Linked middle ds last) :
    Linked start (cs ++ ds) last := by
  induction cs generalizing start with
  | nil =>
      obtain rfl : middle = start := hcs
      exact hds
  | cons c cs ih => exact ⟨hcs.1, ih hcs.2⟩

end Call

/-- What a log tells of. -/
inductive Event where
  /-- A class was built of definitions within settings. -/
  | built (settings : Settings) (ds : List MethodDefinition)
  | called (c : Call)

namespace Event

/-- What classes were built of, in the order of the classes. -/
def builds (log : List Event) : List (Settings × List MethodDefinition) :=
  log.filterMap fun
    | built settings ds => some (settings, ds)
    | called _ => none

/-- The calls of a log. -/
def calls (log : List Event) : List Call :=
  log.filterMap fun
    | built _ _ => none
    | called c => some c

theorem builds_append (log further : List Event) :
    builds (log ++ further) = builds log ++ builds further :=
  List.filterMap_append

theorem calls_append (log further : List Event) :
    calls (log ++ further) = calls log ++ calls further :=
  List.filterMap_append

end Event

namespace SystemState

/-- What the building of a class adds to a log. -/
def buildEvents (p : SystemState) (settings : Settings) (ds : List MethodDefinition) :
    List Event :=
  match p.registry.buildNow p.look settings ds with
  | .error _ => []
  | .ok _ => [.built settings ds]

/-- What the call of a member adds to a log. -/
def callEvents (p : SystemState) (place : Nat) (way : Way) (a : Arguments) : List Event :=
  match p.registry.members[place]? with
  | none => []
  | some x => [.called ⟨x, p.look, way, a, p.source⟩]

/-- What a step adds to a log: a class of the definitions of a generator is built of those that it
has then. -/
def stepEvents : SystemStep → SystemState → List Event
  | .build i, p =>
    match p.generators[i]? with
    | none => []
    | some g => p.buildEvents g.generator.settings g.generator.definitions
  | .buildOf settings ds, p => p.buildEvents settings ds
  | .call place way a, p => p.callEvents place way a
  | _, _ => []

/-- Classes that are built and members that are called are noted. -/
def logging : Record actions Event where
  ended _ := []
  step := stepEvents
  started _ := []
  closing _ _ _ _ := []

end SystemState

/-- The log of a course: the classes that it builds and the members that it calls, in callbacks as
well. -/
def Course.log (c : SystemCourse) (p : SystemState) : List Event :=
  c.record SystemState.logging p

/-- Whether a member was there, or was made later of a definition that the class at its place was
built of, within the settings of that class. -/
def Member.IsKnown (log : List Event) (p : SystemState) (x : Member) : Prop :=
  x ∈ p.registry.members ∨ ∃ i settings ds, (Event.builds log)[i]? = some (settings, ds) ∧
    x.IsMadeOf settings ds (p.registry.classes.length + i)

/-- What a log tells when a state has become another one. -/
structure Tells (log : List Event) (p after : SystemState) : Prop where
  classes : after.registry.classes.length =
    p.registry.classes.length + (Event.builds log).length
  members : ∀ x ∈ after.registry.members, x.IsKnown log p
  calls : ∀ c ∈ Event.calls log, c.member.IsKnown log p
  source : Call.Linked p.source (Event.calls log) after.source

namespace Tells

/-- When no class was built and no member called, there is nothing to tell. -/
theorem of_same {p after : SystemState} (hregistry : after.registry = p.registry)
    (hsource : after.source = p.source) : Tells [] p after where
  classes := by rw [hregistry]; rfl
  members _ hx := .inl (hregistry ▸ hx)
  calls := by simp [Event.calls]
  source := hsource

variable {log further : List Event} {p middle after : SystemState}

/-- What was known stays known when the log goes on. -/
theorem isKnown_append {x : Member} (h : x.IsKnown log p) : x.IsKnown (log ++ further) p := by
  refine h.imp_right fun ⟨i, settings, ds, hi, hx⟩ => ⟨i, settings, ds, ?_, hx⟩
  rw [Event.builds_append, List.getElem?_append_left (List.getElem?_eq_some_iff.1 hi).1]
  exact hi

/-- What is known from later on is known from the start. -/
theorem isKnown_of_later (h : Tells log p middle) {x : Member} (hx : x.IsKnown further middle) :
    x.IsKnown (log ++ further) p := by
  -- a class that was built later stands behind all that were built before
  rcases hx with hx | ⟨i, settings, ds, hi, hx⟩
  · exact isKnown_append (h.members x hx)
  · refine .inr ⟨(Event.builds log).length + i, settings, ds, ?_, ?_⟩
    · rw [Event.builds_append, List.getElem?_append_right (Nat.le_add_right _ _),
        Nat.add_sub_cancel_left]
      exact hi
    · rw [← Nat.add_assoc, ← h.classes]
      exact hx

theorem trans (h : Tells log p middle) (h' : Tells further middle after) :
    Tells (log ++ further) p after where
  classes := by
    rw [h'.classes, h.classes, Event.builds_append, List.length_append, Nat.add_assoc]
  members x hx := h.isKnown_of_later (h'.members x hx)
  calls c hc := by
    rw [Event.calls_append, List.mem_append] at hc
    rcases hc with hc | hc
    · exact isKnown_append (h.calls c hc)
    · exact h.isKnown_of_later (h'.calls c hc)
  source := by
    rw [Event.calls_append]
    exact h.source.append h'.source

/-- Building a class, or failing to. -/
theorem buildOf (p : SystemState) (settings : Settings) (ds : List MethodDefinition) :
    Tells (p.buildEvents settings ds) p ((SystemState.buildOf settings ds).run p).2 := by
  show Tells _ p (SystemState.buildOf settings ds p).2
  unfold SystemState.buildEvents SystemState.buildOf
  cases hbuild : p.registry.buildNow p.look settings ds with
  | error e => exact of_same rfl rfl
  | ok registry =>
      obtain ⟨hclasses, new, hmembers, hnew⟩ :=
        Registry.build_members p.registry (Registry.build_of_buildNow hbuild)
      refine ⟨hclasses, fun x hx => ?_, by simp [Event.calls], rfl⟩
      have hx : x ∈ p.registry.members ++ new := hmembers ▸ hx
      exact (List.mem_append.1 hx).imp_right fun hx => ⟨0, settings, ds, rfl, hnew x hx⟩

/-- Calling a member, if there is one. -/
theorem call (p : SystemState) (place : Nat) (way : Way) (a : Arguments) :
    Tells (p.callEvents place way a) p ((SystemState.call place way a).run p).2 := by
  show Tells _ p (SystemState.call place way a p).2
  unfold SystemState.callEvents SystemState.call
  cases hx : p.registry.members[place]? with
  | none => exact of_same rfl rfl
  | some x =>
      refine ⟨rfl, fun y hy => .inl hy, fun c hc => ?_, ⟨rfl, rfl⟩⟩
      obtain rfl : c = _ := List.mem_singleton.1 hc
      exact .inl (List.mem_of_getElem? hx)

end Tells

namespace SystemState

/-! ## The parts of a course -/

/-- Whether work builds no class and asks nothing of the source. -/
def LeavesClasses {α : Type} (x : WorkOn SystemState α) : Prop :=
  ∀ p : SystemState, (x.run p).2.registry = p.registry ∧ (x.run p).2.source = p.source

variable {α β : Type}

theorem LeavesClasses.of_same {x : WorkOn SystemState α} (h : ∀ p, (x.run p).2 = p) :
    LeavesClasses x := fun p => by
  rw [h]
  exact ⟨rfl, rfl⟩

theorem LeavesClasses.bind {x : WorkOn SystemState α} {f : α → WorkOn SystemState β}
    (hx : LeavesClasses x) (hf : ∀ a, LeavesClasses (f a)) : LeavesClasses (x >>= f) := fun p => by
  have hp := hx p
  rw [run_bind]
  rcases hrun : x.run p with ⟨e | a, after⟩
  · rwa [hrun] at hp
  · rw [hrun] at hp
    obtain ⟨hregistry, hsource⟩ := hf a after
    exact ⟨hregistry.trans hp.1, hsource.trans hp.2⟩

theorem LeavesClasses.of_get {f : SystemState → WorkOn SystemState α}
    (hf : ∀ p, LeavesClasses (f p)) : LeavesClasses (get >>= f) :=
  .bind (.of_same fun _ => rfl) hf

theorem LeavesClasses.atGenerator (i : Nat) (x : WorkOn GeneratorState α) :
    LeavesClasses (atGenerator i x) := fun p => by
  rw [atGenerator_run]
  cases p.generators[i]? <;> exact ⟨rfl, rfl⟩

theorem LeavesClasses.tells {x : WorkOn SystemState α} (h : LeavesClasses x) (p : SystemState) :
    Tells [] p (x.run p).2 :=
  .of_same (h p).1 (h p).2

/-- Every step does what the log says. -/
theorem step_tells (x : SystemStep) (p : SystemState) :
    Tells (stepEvents x p) p (x.perform.run p).2 := by
  cases x with
  | openGenerator settings => exact .of_same rfl rfl
  | openBuilder i name visibility =>
      have hleaves : LeavesClasses (openBuilder i name visibility) :=
        .of_get fun p => .bind (.of_same fun q => by
          cases MethodBuilder.create (name.looked p.look) (visibility.looked p.look) <;> rfl)
          fun b => .atGenerator i _
      exact hleaves.tells p
  | giveVerb i place v =>
      have hleaves : LeavesClasses (giveVerb i place v) := .of_get fun p => .atGenerator i _
      exact hleaves.tells p
  | freeze i place =>
      show Tells _ p (SystemState.freeze i place p).2
      unfold SystemState.freeze
      cases p.generators[i]?.bind fun g => g.builders[place]? <;> exact .of_same rfl rfl
  | build i =>
      show Tells (match p.generators[i]? with
        | none => []
        | some g => p.buildEvents g.generator.settings g.generator.definitions) p
        (SystemState.build i p).2
      unfold SystemState.build
      cases p.generators[i]? with
      | none => exact .of_same rfl rfl
      | some g => exact .buildOf p _ _
  | buildOf settings ds => exact .buildOf p settings ds
  | call place way a => exact .call p place way a
  | change look => exact .of_same rfl rfl

theorem opening_leavesClasses (i : Nat) (name : Value) (visibility : Visibility) :
    LeavesClasses (actions.opening i name visibility) := by
  refine .bind (.of_get fun p => .atGenerator i _) fun b =>
    .bind (.atGenerator i _) fun isDeclared => ?_
  cases isDeclared with
  | true => exact .of_same fun _ => rfl
  | false => exact .bind (.atGenerator i _) fun _ => .of_same fun _ => rfl

theorem closing_leavesClasses (i : Nat) (b : MethodBuilder) (place : Nat) :
    LeavesClasses (actions.closing i b place) :=
  .bind (.atGenerator i _) fun b => .bind (.atGenerator i _) fun _ => .of_get fun p =>
    .of_same fun q => by
      show ((discard (ExceptT.mk (pure (b.freeze.looked p.look).written)) :
        WorkOn SystemState Unit).run q).2 = q
      cases (b.freeze.looked p.look).written <;> rfl

theorem tells_logging : logging.Tells Tells where
  nil _ := .of_same rfl rfl
  append := .trans
  ended _ := .of_same rfl rfl
  step := step_tells
  opening i name visibility p := (opening_leavesClasses i name visibility).tells p
  closing i _ _ _ b place _ _ after _ _ := (closing_leavesClasses i b place).tells after

end SystemState

/-! ## What the source is asked for -/

namespace Call

/-- Whether a call goes by the rules of a member that was made of a definition which its class was
built of, within the settings of that class. -/
def IsRuled (builds : List (Settings × List MethodDefinition)) (c : Call)
    (requests : List Request) : Prop :=
  ∃ i settings ds, builds[i]? = some (settings, ds) ∧ c.member.IsMadeOf settings ds i ∧
    c.member.CallsTo c.look settings c.way c.arguments c.before c.outcome c.after requests

variable {builds : List (Settings × List MethodDefinition)}

theorem exists_isRuled (c : Call) {i : Nat} {settings : Settings} {ds : List MethodDefinition}
    (hi : builds[i]? = some (settings, ds)) (hmade : c.member.IsMadeOf settings ds i) :
    ∃ requests, c.IsRuled builds requests := by
  -- being told of its class has changed nothing about a member that its calls go by
  obtain ⟨d, -, hcreate⟩ := hmade.made
  obtain ⟨rfl, hresolver, hbinds, -⟩ := Member.create_eq_ok hcreate
  obtain ⟨requests, hcalls⟩ :=
    c.member.perform_callsTo c.look c.way c.arguments hresolver hbinds c.before
  exact ⟨requests, i, settings, ds, hi, hmade, hcalls⟩

theorem IsRuled.requests_after {c : Call} {requests : List Request}
    (h : c.IsRuled builds requests) : c.after.requests = c.before.requests ++ requests := by
  obtain ⟨-, settings, -, -, -, hcalls⟩ := h
  exact hcalls.requests

/-- Calls that hang together ask, one after another, for what each of them asks for. -/
theorem Linked.requests {cs : List Call} {start last : Source} (h : Linked start cs last)
    (hruled : ∀ c ∈ cs, ∃ requests, c.IsRuled builds requests) :
    ∃ requests : List (List Request), List.Forall₂ (IsRuled builds) cs requests ∧
      last.requests = start.requests ++ requests.flatten := by
  induction cs generalizing start with
  | nil =>
      obtain rfl : last = start := h
      exact ⟨[], .nil, by simp⟩
  | cons c cs ih =>
      obtain ⟨hc, hcs⟩ := List.forall_mem_cons.1 hruled
      obtain ⟨first, hfirst⟩ := hc
      obtain ⟨hbefore, hlinked⟩ := h
      obtain ⟨rest, hrest, hlast⟩ := ih hlinked hcs
      refine ⟨first :: rest, .cons hfirst hrest, ?_⟩
      rw [hlast, hfirst.requests_after, hbefore, List.flatten_cons, List.append_assoc]

end Call

namespace Course

/-- **Calls go by the rules, and nothing else asks the source.** Let a course do what it wants:
opening generators, making declarations, building classes, calling members and changing objects, in
callbacks as well. Each call goes by the rules of its member, which was made of a definition that
its class was built of, within the settings of that class; of its arguments the shape alone counts.
The calls start one after another from the source as the last one left it, and in the end the source
was asked for what they ask for by the rules, in their order, and for nothing else. -/
theorem run_calls (c : SystemCourse) (source : Source) (look : Look) :
    let start := SystemState.ofSource source look
    let last := (c.run start).2.source
    let calls := Event.calls (c.log start)
    (∃ requests : List (List Request),
        List.Forall₂ (Call.IsRuled (Event.builds (c.log start))) calls requests ∧
          last.requests = source.requests ++ requests.flatten) ∧
      Call.Linked source calls last ∧
      ∀ (x : Member) (look : Look) (way : Way) (a b : Arguments), a.SameShape b →
        x.perform look way a = x.perform look way b := by
  intro start last calls
  have htells := SystemState.tells_logging.run c start
  -- nothing was there at the start, so every member that is called was made in the course
  have hruled : ∀ call ∈ calls, ∃ requests, call.IsRuled (Event.builds (c.log start)) requests := by
    intro call hcall
    rcases htells.calls call hcall with hnone | ⟨i, settings, ds, hi, hmade⟩
    · cases hnone
    · refine call.exists_isRuled hi ?_
      rwa [show start.registry.classes.length + i = i from Nat.zero_add i] at hmade
  exact ⟨htells.source.requests hruled, htells.source,
    fun x look way a b h => funext fun before => x.perform_congr look way h before⟩

/-- A scene with nothing in it but a class that holds nothing. -/
def bareScene : Scene where
  landscape := Landscape.plain ⟨1, fun _ => .blank⟩
  classAt _ := ⟨0, Nat.one_pos⟩
  receiver := ⟨0, Nat.one_pos⟩
  caller := .mk "" []

/-- Not every call that is allowed and fits comes to a value: the text that the source is asked for
may be too long. -/
theorem run_calls_tooLong :
    ¬ ∀ (c : SystemCourse) (source : Source) (look : Look),
      ∀ call ∈ Event.calls (c.log (.ofSource source look)),
        call.way.Allows call.member →
          call.arguments.fault? call.member.definition.parameters = none →
            ∃ v, call.outcome = .ok v := by
  intro h
  let settings : Settings :=
    { Settings.standard with
      stringLength := 9223372036854775808
      one_le_stringLength := by decide }
  let declared (next : SystemCourse) : SystemCourse :=
    Course.declare (A := SystemState.actions) (0 : Nat) (.str "m") .publicMember
      (fun place => .step (.giveVerb 0 place (.returns (.type .str))) fun _ =>
        .step (.giveVerb 0 place (.generate (.bool true))) fun _ => .done) fun _ => next
  let c : SystemCourse :=
    .step (.openGenerator settings) fun _ => declared <|
      .step (.build 0) fun _ => .step (.call 0 (.call bareScene) ⟨[], []⟩) fun _ => .done
  have hcall : ((Event.calls (c.log (.ofSource (.fixed 0 "") .plain))).any fun call =>
      call.member.definition.visibility.isPublic && (call.way matches .call _) &&
        (call.arguments.fault? call.member.definition.parameters).isNone &&
          !call.outcome.isOk) = true := by
    decide +kernel
  obtain ⟨call, hcall, hall⟩ := List.any_eq_true.1 hcall
  simp only [Bool.and_eq_true, Option.isNone_iff_eq_none] at hall
  obtain ⟨⟨⟨hpublic, hway⟩, hfits⟩, hfails⟩ := hall
  have hallows : call.way.Allows call.member := by
    cases heq : call.way with
    | call scene => exact .inl hpublic
    | send target name => simp [heq] at hway
  obtain ⟨v, hv⟩ := h c (.fixed 0 "") .plain call hcall hallows hfits
  rw [hv] at hfails
  cases hfails

end Course

end StubClass
