import StubClass.Class.Subject
import StubClass.Proofs.Class.Building
import StubClass.Proofs.Class.Calling
import StubClass.Proofs.Random.Drawing

set_option autoImplicit false

/-! # Calls from inside

There are two ways to a generated member. As an attribute it is bound, and its function looks who
calls; from inside it is looked for without binding it, and called at once. Once the caller may
call, both come to the same: what the member answers (`Member.call_of_check`,
`Subject.send_of_some`), since all arguments go through the functions on the way whatever their
keywords are (`Arguments.through_eq`). Where nothing interferes, taking an attribute binds the very
member that is looked for (`Subject.callAttribute_of_plain`). `Subject.send_eq_call` puts this
together. -/

namespace StubClass

open StubClass.Random (Source)

/-! ## Arguments on their way -/

namespace Formal

variable {α : Type}

/-- Parameters that no keyword is for leave all of them to the parameter that takes further ones. -/
theorem takeKeywords_free {formals : List Formal}
    (hkeyword : ∀ f ∈ formals, f.goesByKeyword = false)
    (hfurther : (formals.any fun f => f.kind == .furtherKeyword) = true)
    (taken keywords : List (String × α)) : takeKeywords formals taken keywords = .ok taken := by
  induction keywords with
  | nil => rfl
  | cons k keywords ih =>
      obtain ⟨keyword, v⟩ := k
      have hnone : ¬ (formals.any fun f => f.goesByKeyword && f.name.text == keyword) = true := by
        simp only [List.any_eq_true, Bool.and_eq_true, not_exists, not_and]
        exact fun f hf h => absurd h (by rw [hkeyword f hf]; decide)
      rw [takeKeywords, if_neg hnone, if_pos hfurther, ih]

theorem lacking_zip {slots : List Formal} {positional : List α}
    (h : slots.length ≤ positional.length) :
    lacking ((slots.map fun f => f.name.text).zip positional) slots = [] := by
  have hnames : (((slots.map fun f => f.name.text).zip positional).map Prod.fst) =
      slots.map fun f => f.name.text := List.map_fst_zip (by simpa using h)
  rw [lacking, List.map_eq_nil_iff, List.filter_eq_nil_iff]
  intro f hf
  have hmem : f.name.text ∈ ((slots.map fun f => f.name.text).zip positional).map Prod.fst := by
    rw [hnames]
    exact List.mem_map_of_mem hf
  obtain ⟨t, ht, hname⟩ := List.mem_map.1 hmem
  simp only [Bool.and_eq_true, Bool.not_eq_true', List.any_eq_false, not_and, not_forall]
  exact fun _ => ⟨t, ht, by simpa using hname⟩

/-- A function with nothing but parameters by position only, and those that take everything else,
takes any call that fills the former. -/
theorem takeAll_free {formals : List Formal} (hkeyword : ∀ f ∈ formals, f.goesByKeyword = false)
    (hpositional : (formals.any fun f => f.kind == .furtherPositional) = true)
    (hfurther : (formals.any fun f => f.kind == .furtherKeyword) = true)
    {positional : List α} (h : formals.countP goesByPosition ≤ positional.length)
    (keywords : List (String × α)) :
    takeAll formals positional keywords =
      .ok (((formals.filter goesByPosition).map fun f => f.name.text).zip positional) := by
  have hslots : (formals.filter goesByPosition).length ≤ positional.length := by
    rwa [← List.countP_eq_length_filter]
  have honly (taken : List (String × α)) :
      lacking taken (formals.filter fun f => f.kind == .keywordOnly) = [] := by
    have hnone : formals.filter (fun f => f.kind == .keywordOnly) = [] := by
      refine List.filter_eq_nil_iff.2 fun f hf hkind => ?_
      have hnot := hkeyword f hf
      rw [goesByKeyword, hkind, Bool.or_true] at hnot
      cases hnot
    rw [hnone]
    rfl
  rw [takeAll]
  simp only [takeKeywords_free hkeyword hfurther, hpositional, lacking_zip hslots, honly,
    Bool.not_true, Bool.and_false, bind, Except.bind, pure, Except.pure, Bool.false_eq_true,
    if_false]

end Formal

/-- All arguments reach a function that takes everything besides what is in front of them, whatever
their keywords are. -/
theorem Arguments.through_eq {formals : List Formal} {front : Nat}
    (hkeyword : ∀ f ∈ formals, f.goesByKeyword = false)
    (hpositional : (formals.any fun f => f.kind == .furtherPositional) = true)
    (hfurther : (formals.any fun f => f.kind == .furtherKeyword) = true)
    (hfront : formals.countP Formal.goesByPosition = front) (a : Arguments) :
    a.through formals front = .ok a := by
  have hfills : formals.countP Formal.goesByPosition ≤
      (List.replicate (front + a.positional.length) ()).length := by
    rw [List.length_replicate]
    omega
  have hfree : ∀ k ∈ a.keywords, (!Formal.takesKeyword formals (some k.1.text)) = true := by
    intro k _
    rw [Formal.takesKeyword, Bool.not_eq_true', List.any_eq_false]
    intro f hf
    rw [hkeyword f hf, Bool.false_and]
    exact Bool.false_ne_true
  have hkeywords := List.filter_eq_self.2 hfree
  rw [through, Formal.takeAll_free hkeyword hpositional hfurther hfills, hfront, Nat.sub_self,
    hkeywords]
  rfl

/-! ## What decides over an attribute -/

section Preferred

variable {κ η : Type} {decides : η → Bool}

/-- What an object keeps decides, unless what its class holds always does. -/
theorem preferred?_own {own : κ} {held : Option η} (h : held.filter decides = none) :
    preferred? decides (some own) held = some (.inl own) := by
  unfold preferred?
  rw [h]

theorem preferred?_held (held : η) :
    preferred? decides (none : Option κ) (some held) = some (.inr held) := by
  unfold preferred?
  rw [Option.filter_some]
  cases decides held <;> rfl

end Preferred

/-! ## What a member comes to -/

namespace Random.Device

/-- A draw within settings may fail, but not with a declared error. -/
theorem text_undeclared (d : Device) {n : Int} (hn : 1 ≤ n) {e : Error}
    (h : (d.text (.int n)).1 = .error e) : e.report? = none := by
  cases d with
  | seeded seed t =>
      obtain ⟨hshort, hlong⟩ := text_seeded seed t hn
      rcases lt_or_ge n (2 ^ 63) with hsize | hsize
      · obtain ⟨v, hv, -⟩ := hshort hsize
        rw [hv] at h
        cases h
      · rw [hlong hsize] at h
        cases h
        rfl
  | fixed offset fill =>
      have hrun : (text (.fixed offset fill) (.int n)).1 = (repeated fill n).map .str := rfl
      rw [hrun, repeated] at h
      split at h
      · cases h; rfl
      · split at h
        · cases h
        · split at h
          · cases h; rfl
          · split at h
            · cases h; rfl
            · cases h
  | system choices used =>
      obtain ⟨v, hv, -⟩ := text_system choices used hn
      rw [hv] at h
      cases h

theorem below_undeclared {bound : Nat} {t : Twister} {e : Error} (h : below bound t = .error e) :
    e.report? = none := by
  rw [below] at h
  split at h
  · cases h
    rfl
  · split at h <;> cases h
    rfl

theorem integer_undeclared (d : Device) {low high : Int} (hle : low ≤ high) {e : Error}
    (h : (d.integer (.int low) (.int high)).1 = .error e) : e.report? = none := by
  cases d with
  | seeded seed t =>
      rcases integer_seeded seed t hle with ⟨e', hbelow, hfails⟩ | ⟨n, hn, -⟩
      · rw [hfails] at h
        cases h
        exact below_undeclared hbelow
      · rw [hn] at h
        cases h
  | fixed offset fill =>
      have hplus : (Value.int low).plusWhole offset = .ok (.int (low + offset)) := rfl
      simp only [integer, hplus, Value.isBelow_int, bind, Except.bind, pure, Except.pure] at h
      cases h
  | system choices used =>
      obtain ⟨n, hn, -⟩ := integer_system choices used hle
      rw [hn] at h
      cases h

end Random.Device

namespace Resolver

/-- Resolving a return value may fail, but not with a declared error. -/
theorem resolve_undeclared (r : Resolver) (before : Source) {e : Error}
    (h : (r.resolve before).1 = .error e) : e.report? = none := by
  cases r with
  | literal value => cases h
  | random value settings =>
      have hrun : (value.drawIfMarker settings before).1 = .error e := h
      cases hm : value.marker? with
      | none =>
          rw [Value.drawIfMarker, hm] at hrun
          cases hrun
      | some m =>
          rw [Value.drawIfMarker_eq hm] at hrun
          have hdraw : (before.draw (m.request settings)).1 = .error e := by
            cases hdrawn : (before.draw (m.request settings)).1 with
            | ok answer => rw [hdrawn] at hrun; cases hrun
            | error e' => rw [hdrawn] at hrun; cases hrun; rfl
          cases m with
          | int =>
              exact before.device.integer_undeclared settings.integerMin_le_integerMax hdraw
          | str => exact before.device.text_undeclared settings.one_le_stringLength hdraw
          | symbol => exact before.device.text_undeclared settings.one_le_stringLength hdraw

end Resolver

namespace Member

variable (x : Member)

/-- What a member comes to once it is called, wherever that was. -/
def answer (look : Look) (a : Arguments) : Inquiry Value :=
  ExceptT.mk (x.invoke look x.resolver.resolve a)

variable (look : Look)

theorem answer_run (a : Arguments) (before : Source) :
    (x.answer look a).run before =
      match a.fault? x.definition.parameters with
      | some fault => (.error (x.refusal look fault), before)
      | none => x.resolver.resolve before := by
  show x.invoke look x.resolver.resolve a before = _
  rw [Stub.invoke_of_create x.created]
  cases a.fault? x.definition.parameters <;> rfl

/-- No call that has come to its member is refused for who makes it, and it fails to fit just when
its arguments do not fit, unless the signature cannot be written then. -/
theorem answer_error (a : Arguments) (before : Source) :
    (∀ method visibility owner,
        ((x.answer look a).run before).1 ≠ .error (.access method visibility owner)) ∧
      ((∃ method signature fault,
          ((x.answer look a).run before).1 = .error (.arity method signature fault)) ↔
        a.fault? x.definition.parameters ≠ none ∧
          (x.signature.looked look).isWritable = true) := by
  rw [answer_run]
  cases hfault : a.fault? x.definition.parameters with
  | some fault =>
      simp only [Stub.refusal, Signature.written]
      cases (x.signature.looked look).isWritable with
      | true =>
          refine ⟨?_, fun _ => ⟨Option.some_ne_none fault, rfl⟩, fun _ => ⟨_, _, _, rfl⟩⟩
          rintro _ _ _ ⟨⟩
      | false =>
          refine ⟨?_, ?_, fun h => absurd h.2 Bool.false_ne_true⟩
          · rintro _ _ _ ⟨⟩
          · rintro ⟨_, _, _, ⟨⟩⟩
  | none =>
      refine ⟨fun _ _ _ h => ?_, ?_, fun h => absurd rfl h.1⟩
      · cases x.resolver.resolve_undeclared before h
      · rintro ⟨_, _, _, h⟩
        cases x.resolver.resolve_undeclared before h

theorem call_eq (scene : Scene) (a : Arguments) :
    x.call look scene 1 a = ExceptT.mk (x.perform look (.call scene) a) := by
  have hthrough : a.through Shape.ofMember.formals 1 = .ok a :=
    a.through_eq (by decide) (by decide) (by decide) (by decide)
  rw [call, hthrough]

/-- As an attribute a member answers whoever may call it. -/
theorem call_of_check {scene : Scene} (h : scene.check x = .ok ()) (a : Arguments) :
    x.call look scene 1 a = x.answer look a := by
  have hcheck : Way.check x (.call scene) = .ok () := h
  rw [call_eq, perform, hcheck]
  rfl

theorem check_of_public (h : x.definition.visibility.isPublic = true) (scene : Scene) :
    scene.check x = .ok () :=
  RaisingLandscape.checkAccess_of_public h _

end Member

namespace Subject

variable {s : Subject} {name : Name} {x : Member}

/-! ## Calls from inside -/

theorem send_eq (s : Subject) (name : Name) (a : Arguments) :
    s.send name a = (s.sending name a).run := by
  have hthrough : a.through Shape.ofSending.formals 2 = .ok a :=
    a.through_eq (by decide) (by decide) (by decide) (by decide)
  rw [send, hthrough]

theorem send_of_none (h : s.member? name = none) (a : Arguments) :
    s.send name a = s.callAttribute name insideCode a := by
  rw [send_eq, Sending.run]
  show (pure (s.member? name) >>= fun found => _) = _
  rw [pure_bind, h]
  rfl

theorem send_of_some (h : s.member? name = some x) (a : Arguments) :
    s.send name a =
      if x.bindsToClass != s.passesForClass then (s.sending name a).refuse x.bindsToClass
      else x.answer s.look a := by
  rw [send_eq, Sending.run]
  show (pure (s.member? name) >>= fun found => _) = _
  rw [pure_bind, h]
  rfl

/-- A member that is not at hand is refused, as soon as what it is called on is written. -/
theorem refuse_run (s : Subject) (name : Name) (a : Arguments) (bindsToClass : Bool)
    {text : String} {before after : Source} (h : s.literal.run before = (.ok text, after)) :
    ((s.sending name a).refuse bindsToClass).run before =
      (.error (.ordinary .noAttribute ((if bindsToClass then "Class" else "Instance") ++ " method "
        ++ name.toValue.literal ++ " is not callable on " ++ text)), after) := by
  show (s.literal >>= fun text => throw _).run before = _
  rw [run_bind_ok h]
  rfl

/-! ## Calls as attributes -/

/-- Nothing is asked for an attribute instead of what is there, nothing hides what is there, and
nothing on the class of a class decides over what the class holds. -/
def IsPlain (s : Subject) (name : Name) : Prop :=
  s.hook? = none ∧ s.isShadowed = false ∧ (∀ h ∈ s.order ++ s.kind, h.isOpen = true) ∧
    (s.isClass = true → ∀ y, Holder.held? s.kind name = some y → y.decides = false)

theorem heldOpenly?_eq {holders : List Holder} (h : ∀ k ∈ holders, k.isOpen = true) (name : Name) :
    Holder.heldOpenly? holders name = Holder.held? holders name := by
  rw [Holder.heldOpenly?, List.filter_eq_self.2 h]

theorem found?_of_member? (h : s.member? name = some x) : s.found? name = some (.member x) := by
  unfold member? at h
  split at h
  · next y hy =>
      cases h
      exact hy
  · cases h

/-- Taking an attribute plainly binds the member that is found without asking. -/
theorem takePlainly_of_plain (hplain : s.IsPlain name) (h : s.member? name = some x)
    (hlevel : s.isClass = true → x.bindsToClass = true) :
    ∃ receiver, ∀ caller, s.takePlainly name caller =
      return fun caller => x.call s.look { s.surroundings with caller, receiver } 1 := by
  obtain ⟨-, hshadowed, hopen, hdecides⟩ := hplain
  have horder := heldOpenly?_eq (fun k hk => hopen k (List.mem_append_left _ hk)) name
  have hkind := heldOpenly?_eq (fun k hk => hopen k (List.mem_append_right _ hk)) name
  have hfound := found?_of_member? h
  rw [found?, horder, hkind, hshadowed] at hfound
  unfold takePlainly
  cases hclass : s.isClass with
  | true =>
      simp only [hclass, if_true] at hfound ⊢
      have hnone : (Holder.held? s.kind name).filter Standing.decides = none := by
        rw [Option.filter_eq_none_iff]
        exact fun y hy => by rw [hdecides hclass y hy]; exact Bool.false_ne_true
      cases hheld : Holder.held? s.order name with
      | some y =>
          rw [hheld] at hfound
          obtain rfl : y = .member x := Option.some.inj hfound
          rw [preferred?_own hnone]
          refine ⟨s.surroundings.receiver, fun caller => ?_⟩
          show s.unbound caller (.member x) = _
          rw [unbound, if_pos (hlevel hclass)]
          rfl
      | none =>
          rw [hheld] at hfound
          have hkindHeld : Holder.held? s.kind name = some (.member x) := hfound
          refine ⟨if x.bindsToClass then s.metaclass else s.surroundings.receiver, fun caller => ?_⟩
          rw [hkindHeld, preferred?_held]
          rfl
  | false =>
      simp only [hclass, Bool.false_eq_true, if_false, Option.map_eq_some_iff] at hfound ⊢
      obtain ⟨y, hy, hmember⟩ := hfound
      cases y with
      | inl own => cases hmember
      | inr held =>
          obtain rfl : held = .member x := hmember
          refine ⟨s.surroundings.receiver, fun caller => ?_⟩
          rw [hy]
          rfl

/-- As an attribute that is taken plainly, the member that is found without asking is called. -/
theorem callAttribute_of_plain (hplain : s.IsPlain name) (h : s.member? name = some x)
    (hlevel : s.isClass = true → x.bindsToClass = true) :
    ∃ receiver, ∀ caller a, s.callAttribute name caller a =
      x.call s.look { s.surroundings with caller, receiver } 1 a := by
  obtain ⟨receiver, htake⟩ := takePlainly_of_plain hplain h hlevel
  refine ⟨receiver, fun caller a => ?_⟩
  have hattribute : s.take name caller =
      return fun caller => x.call s.look { s.surroundings with caller, receiver } 1 := by
    rw [take, hplain.1]
    simp only [htake]
    cases s.fallback? <;> rfl
  rw [callAttribute, hattribute, pure_bind]

/-! ## The two ways compared -/

/-- A call from inside of a member that is found goes by what the subject is taken for. -/
theorem send_eq_perform (h : s.member? name = some x) (a : Arguments) {text : String}
    {before : Source} (hliteral : s.literal.run before = (.ok text, before)) :
    (s.send name a).run before =
      x.perform s.look (.send ⟨.ok s.passesForClass, .ok text⟩ name) a before := by
  rw [send_of_some h, Member.perform]
  cases hlevel : x.bindsToClass != s.passesForClass with
  | true =>
      rw [if_pos rfl, refuse_run s name a x.bindsToClass hliteral]
      simp only [Way.check, Target.check, bind, Except.bind, hlevel, if_true]
      rfl
  | false =>
      rw [if_neg Bool.false_ne_true]
      simp only [Way.check, Target.check, bind, Except.bind, hlevel, Bool.false_eq_true, if_false]
      rfl

/-- **A call from inside is that of somebody who may call.** Look under a name of an object or a
class without asking anybody. If a generated member is there that is at hand, a call from inside is
its call as an attribute by any code that may make it: by all code, if the member is public. It is
never refused for who makes it, and its arguments do not fit just when they never do, which the
error says if it can show the signature. Where nothing is asked instead, that call is the one of the
attribute that is taken. If the member is not at hand, the call is refused and nothing is asked of
the source, as long as what is called can be written without that. And if no generated member is
there, the attribute is taken and called by the code of calls from inside. All keywords reach the
member or the attribute, whatever they are. -/
theorem send_eq_call (s : Subject) (name : Name) (a : Arguments) :
    (∀ x, s.member? name = some x → x.bindsToClass = s.passesForClass →
        (∀ scene : Scene, scene.check x = .ok () → s.send name a = x.call s.look scene 1 a) ∧
        (x.definition.visibility.isPublic = true →
          ∀ scene : Scene, s.send name a = x.call s.look scene 1 a) ∧
        (s.IsPlain name → ∃ receiver, ∀ caller, s.callAttribute name caller a =
          x.call s.look { s.surroundings with caller, receiver } 1 a) ∧
        ∀ before, (∀ method visibility owner,
            ((s.send name a).run before).1 ≠ .error (.access method visibility owner)) ∧
          ((∃ method signature fault,
              ((s.send name a).run before).1 = .error (.arity method signature fault)) ↔
            a.fault? x.definition.parameters ≠ none ∧
              (x.signature.looked s.look).isWritable = true)) ∧
      (∀ x, s.member? name = some x → x.bindsToClass ≠ s.passesForClass →
        ∀ text before, s.literal.run before = (.ok text, before) →
          (s.send name a).run before =
            (.error (.ordinary .noAttribute ((if x.bindsToClass then "Class" else "Instance")
              ++ " method " ++ name.toValue.literal ++ " is not callable on " ++ text)), before)) ∧
      (s.member? name = none → s.send name a = s.callAttribute name insideCode a) := by
  refine ⟨fun x hx hlevel => ?_, fun x hx hlevel text before hliteral => ?_,
    fun hnone => send_of_none hnone a⟩
  · have hsend : s.send name a = x.answer s.look a := by
      rw [send_of_some hx, hlevel, bne_self_eq_false]
      rfl
    have hcall : ∀ scene : Scene, scene.check x = .ok () →
        s.send name a = x.call s.look scene 1 a :=
      fun scene hcheck => by rw [hsend, x.call_of_check s.look hcheck]
    refine ⟨hcall, fun hpublic scene => hcall scene (x.check_of_public hpublic scene),
      fun hplain => ?_, fun before => ?_⟩
    · have hclass : s.isClass = true → x.bindsToClass = true := fun h => by
        rw [hlevel, passesForClass, h]
        rfl
      obtain ⟨receiver, htaken⟩ := callAttribute_of_plain hplain hx hclass
      exact ⟨receiver, fun caller => htaken caller a⟩
    · rw [hsend]
      exact x.answer_error s.look a before
  · rw [send_of_some hx, if_pos (bne_iff_ne.2 hlevel)]
    exact refuse_run s name a x.bindsToClass hliteral

/-- A class that holds a function. -/
def guarded : Landscape where
  size := 2
  facet
    | 0 => { (Facet.blank : Facet (Fin 2)) with
        title := .ofText "Base", members := [⟨1, Nat.one_lt_two⟩] }
    | 1 => { (Facet.blank : Facet (Fin 2)) with code? := some (.mk "f" []) }

/-- That class. -/
def guardedClass : Fin 2 :=
  ⟨0, Nat.two_pos⟩

/-- An object of that class, which holds something else under names too; so does the object. -/
def guardedObject (held : List (Name × Standing)) (own : List (Name × Thing)) : Subject where
  isClass := false
  pretends := false
  literal := return "<Base object>"
  look := .plain
  surroundings := ⟨guarded.plain, fun _ => guardedClass, guardedClass, .mk "" []⟩
  metaclass := guardedClass
  classOf _ := guardedClass
  own := own
  isShadowed := false
  order := [⟨held, true⟩]
  kind := []
  hook? := none
  fallback? := none

/-- The definition of a private member with a parameter that is named like one of a call from
inside. -/
def hidden : MethodDefinition :=
  ⟨.str "p", .privateMember, [⟨.keywordRequired, ⟨.ofText "target", by decide +kernel⟩, .null⟩],
    .int 42, false⟩

/-- The function of the class may call a private member that was made for it, whatever the member is
called on. -/
theorem check_guarded {x : Member} (hx : x.definition = hidden) (howner : x.owner = some 0)
    (receiver : Fin 2) :
    Scene.check ⟨guarded.plain, fun _ => guardedClass, receiver, .mk "f" []⟩ x = .ok () := by
  have hzero : Scene.owner ⟨guarded.plain, fun _ => guardedClass, receiver, .mk "f" []⟩ x =
      guardedClass := by
    rw [Scene.owner, howner]
  rw [Scene.check, hzero, hx]
  rfl

/-- A private member is called from inside like by the function of its class, also by a keyword that
is a name of what a call from inside takes. A member that is bound to classes is refused. -/
theorem send_eq_call_guarded :
    ∃ x y, Member.create .standard hidden = .ok x ∧
      Member.create .standard ⟨.str "c", .publicClass, [], .null, false⟩ = .ok y ∧
      ∀ before : Source,
        let p : Member := { x with owner := some 0 }
        let s := guardedObject [(.ofText "p", .member p), (.ofText "c", .member y)] []
        let a : Arguments := ⟨[], [(.ofText "target", .null)]⟩
        (s.send (.ofText "p") a = s.callAttribute (.ofText "p") (.mk "f" []) a ∧
            (s.send (.ofText "p") a).run before = (.ok (.int 42), before)) ∧
          (s.send (.ofText "c") a).run before =
            (.error (.ordinary .noAttribute
              "Class method 'c' is not callable on <Base object>"), before) := by
  obtain ⟨x, hx⟩ : ∃ x, Member.create .standard hidden = .ok x := ⟨_, rfl⟩
  obtain ⟨y, hy⟩ : ∃ y, Member.create .standard
      ⟨.str "c", .publicClass, [], .null, false⟩ = .ok y := ⟨_, rfl⟩
  refine ⟨x, y, hx, hy, fun before => ?_⟩
  intro p s a
  obtain ⟨hdefinition, hresolver, hbinds, -⟩ := Member.create_eq_ok hx
  obtain ⟨-, -, hclass, -⟩ := Member.create_eq_ok hy
  obtain ⟨hmember, -, -⟩ := send_eq_call s (.ofText "p") a
  obtain ⟨hcall, -, hplain, -⟩ := hmember p rfl hbinds
  obtain ⟨receiver, htaken⟩ := hplain ⟨rfl, rfl, by simp [s, guardedObject], nofun⟩
  have hcheck := check_guarded (x := p) hdefinition rfl receiver
  obtain ⟨-, hother, -⟩ := send_eq_call s (.ofText "c") a
  refine ⟨⟨(hcall _ hcheck).trans (htaken _).symm, ?_⟩, ?_⟩
  · have hfits : a.fault? p.definition.parameters = none := by
      show a.fault? x.definition.parameters = none
      rw [hdefinition]
      rfl
    have hresolve : p.resolver.resolve before = (.ok (.int 42), before) := by
      show x.resolver.resolve before = _
      rw [hresolver]
      rfl
    rw [hcall _ hcheck, p.call_of_check s.look hcheck, Member.answer_run, hfits, hresolve]
  · have hlevel : y.bindsToClass = true := hclass
    have hrefused := hother y rfl (by rw [hlevel]; exact nofun) "<Base object>" before rfl
    rw [hlevel] at hrefused
    have htext : "Class" ++ " method " ++ (Name.ofText "c").toValue.literal
        ++ " is not callable on " ++ "<Base object>" =
          "Class method 'c' is not callable on <Base object>" := by decide +kernel
    rwa [if_pos rfl, htext] at hrefused

/-- What is no generated member is not always called like from elsewhere: an object may keep a
member that was bound to it under another name. -/
theorem send_alias :
    ¬ ∀ (s : Subject) (name : Name) (caller : Code) (a : Arguments), s.member? name = none →
      s.send name a = s.callAttribute name caller a := by
  intro h
  obtain ⟨x, hx⟩ : ∃ x, Member.create .standard hidden = .ok x := ⟨_, rfl⟩
  obtain ⟨hdefinition, -, -, -⟩ := Member.create_eq_ok hx
  let p : Member := { x with owner := some 0 }
  let scene (caller : Code) : Scene := ⟨guarded.plain, fun _ => guardedClass, guardedClass, caller⟩
  let a : Arguments := ⟨[], [(.ofText "target", .null)]⟩
  let kept : Thing :=
    ⟨false, fun caller => p.call .plain (scene caller) 1, fun _ _ => throw .emptyChoice⟩
  let s := guardedObject [] [(.ofText "alias", kept)]
  have hsame : s.send (.ofText "alias") a = p.answer .plain a := by
    rw [← p.call_of_check .plain (check_guarded (x := p) hdefinition rfl guardedClass)]
    exact h s (.ofText "alias") (.mk "f" []) a rfl
  have hinside : s.send (.ofText "alias") a = p.call .plain (scene insideCode) 1 a :=
    send_of_none rfl a
  have hcheck : (scene insideCode).check p =
      .error (.access hidden.name .privateMember (.ofText "Base")) := by
    show guarded.checkAccess x.definition guardedClass (some insideCode) = _
    rw [hdefinition]
    rfl
  have hrefused : ((p.call .plain (scene insideCode) 1 a).run (.fixed 0 "")).1 =
      .error (.access hidden.name .privateMember (.ofText "Base")) := by
    have hway : Way.check p (.call (scene insideCode)) = _ := hcheck
    rw [Member.call_eq, Member.perform, hway]
    rfl
  rw [← hinside, hsame] at hrefused
  exact (p.answer_error .plain a (.fixed 0 "")).1 _ _ _ hrefused

end Subject

end StubClass
