import StubClass.Member
import StubClass.Proofs.Class.Access
import StubClass.Proofs.Method.Look

set_option autoImplicit false

/-! # What a call of a member comes to

A call is refused when it may not be made in its way; then it fails when its arguments do not fit;
and else it comes to the literal of the member, or to the answer of the source to one request.
`perform_callsTo` proves that these rules say all that a call does. Of the arguments they look at
the shape alone, so calls of one shape come to the same (`perform_congr`). -/

namespace StubClass

open StubClass.Random (Request Source)

/-! ## Ways of calling -/

namespace Way

variable (x : Member)

/-- Whether a member may be called in a way: by the caller, or on what it is called on. -/
def Allows : Way → Prop
  | call scene => scene.landscape.MayCall x.definition (scene.owner x) (some scene.caller)
  | send target _ => target.isClass = .ok x.definition.visibility.isClassLevel

/-- How a call in a way is refused, whatever its arguments are. -/
inductive Refuses : Way → Error → Prop where
  /-- A caller that may not call is told so, and nobody else as long as classes are told apart. -/
  | access {scene : Scene} (hd : x.definition.visibility.isPublic = false)
      (h : scene.landscape.TellsApart x.definition (scene.owner x) →
        ¬ scene.landscape.MayCall x.definition (scene.owner x) (some scene.caller)) :
      Refuses (.call scene) (.access x.definition.name x.definition.visibility
        (scene.landscape.facet (scene.owner x)).title)
  /-- An object raises an error when the check of the caller asks it. -/
  | raised {scene : Scene} {e : Error} (hd : x.definition.visibility.isPublic = false)
      (h : scene.landscape.RaisesWithin x.definition (scene.owner x) e) : Refuses (.call scene) e
  /-- The check of the caller comes to layers that go on without an end. -/
  | endless {scene : Scene} (hd : x.definition.visibility.isPublic = false)
      (h : scene.landscape.IsEndless x.definition (scene.owner x)) :
      Refuses (.call scene) .tooManyLayers
  /-- The member is not of the level of what it is called on. -/
  | level {target : Target} {name : Name} {isClass : Bool} {text : String}
      (hclass : target.isClass = .ok isClass)
      (h : x.definition.visibility.isClassLevel ≠ isClass) (htext : target.literal = .ok text) :
      Refuses (.send target name) (.ordinary .noAttribute
        ((if x.definition.visibility.isClassLevel then "Class" else "Instance") ++ " method "
          ++ name.toValue.literal ++ " is not callable on " ++ text))
  /-- What it is called on raises an error when it is asked of what level it is. -/
  | unasked {target : Target} {name : Name} {e : Error} (h : target.isClass = .error e) :
      Refuses (.send target name) e
  /-- What it is called on is not of its level and raises an error when it is written. -/
  | unwritten {target : Target} {name : Name} {isClass : Bool} {e : Error}
      (hclass : target.isClass = .ok isClass)
      (h : x.definition.visibility.isClassLevel ≠ isClass) (htext : target.literal = .error e) :
      Refuses (.send target name) e

variable {x}

/-- A call that is let through may be made, and else it is refused. -/
theorem check_comesTo (hx : x.bindsToClass = x.definition.visibility.isClassLevel) (way : Way) :
    ComesTo (way.check x) (fun _ => way.Allows x) (way.Refuses x) := by
  cases way with
  | call scene =>
      show ComesTo
        (scene.landscape.checkAccess x.definition (scene.owner x) (some scene.caller)) _ _
      cases hd : x.definition.visibility.isPublic with
      | true => exact .inl ⟨(), RaisingLandscape.checkAccess_of_public hd _, .inl hd⟩
      | false =>
          refine (scene.landscape.checkAccess_comesTo hd (some scene.caller)).imp (fun _ h => h) ?_
          rintro e (⟨rfl, h⟩ | h | ⟨rfl, h⟩)
          · exact .access hd h
          · exact .raised hd h
          · exact .endless hd h
  | send target name =>
      show ComesTo (target.isClass >>= fun isClass => _) _ _
      cases hclass : target.isClass with
      | error e => exact .inr ⟨e, rfl, .unasked hclass⟩
      | ok isClass =>
          simp only [bind, Except.bind, hx]
          by_cases h : x.definition.visibility.isClassLevel = isClass
          · rw [if_neg (by simp [h])]
            exact .inl ⟨(), rfl, hclass.trans (congrArg _ h.symm)⟩
          · rw [if_pos (bne_iff_ne.2 h)]
            cases htext : target.literal with
            | error e => exact .inr ⟨e, rfl, .unwritten hclass h htext⟩
            | ok text => exact .inr ⟨_, rfl, .level hclass h htext⟩

end Way

/-! ## The rules of a call -/

theorem Random.Source.draw_requests (source : Source) (r : Request) :
    (source.draw r).2.requests = source.requests ++ [r] :=
  rfl

namespace MethodDefinition

variable {d : MethodDefinition} (settings : Settings)

theorem resolve_literal (h : d.generateRandom = true → d.returnValue.marker? = none)
    (before : Source) : (d.resolver settings).resolve before = (.ok d.returnValue, before) := by
  have hwants : ¬ d.wantsRandom = true := by
    simp only [wantsRandom, Bool.and_eq_true, Option.isSome_iff_ne_none, ne_eq, not_and, not_not]
    exact h
  rw [resolver, if_neg hwants]
  rfl

theorem resolve_random (hgenerate : d.generateRandom = true) {m : Marker}
    (hm : d.returnValue.marker? = some m) (before : Source) :
    (d.resolver settings).resolve before =
      ((before.draw (m.request settings)).1.map m.dress, (before.draw (m.request settings)).2) := by
  have hwants : d.wantsRandom = true := by rw [wantsRandom, hgenerate, hm]; rfl
  rw [resolver, if_pos hwants]
  show d.returnValue.drawIfMarker settings before = _
  rw [Value.drawIfMarker, hm]
  rfl

end MethodDefinition

namespace Member

/-- The rules by which a call of a member that was made within settings comes to something, to a
source and to requests of it, when objects have a certain look. -/
inductive CallsTo (look : Look) (settings : Settings) (x : Member) (way : Way) (a : Arguments)
    (before : Source) : Except Error Value → Source → List Request → Prop where
  /-- A call that may not be made is refused, whatever its arguments are. -/
  | refused {e : Error} (h : way.Refuses x e) :
      CallsTo look settings x way a before (.error e) before []
  /-- A call whose arguments do not fit fails for the first reason why they do not. -/
  | unfit (h : way.Allows x) {fault : BindFault Name} {e : Error}
      (hfault : a.fault? x.definition.parameters = some fault)
      (he : x.IsRefusal look fault e) : CallsTo look settings x way a before (.error e) before []
  /-- Unless random values are asked for and there is a marker, the value itself is returned. -/
  | literal (h : way.Allows x) (hfits : a.fault? x.definition.parameters = none)
      (hliteral : x.definition.generateRandom = true → x.definition.returnValue.marker? = none) :
      CallsTo look settings x way a before (.ok x.definition.returnValue) before []
  /-- For a marker the source is asked once, within the bounds of the settings. -/
  | random (h : way.Allows x) (hfits : a.fault? x.definition.parameters = none)
      (hgenerate : x.definition.generateRandom = true) {m : Marker}
      (hm : x.definition.returnValue.marker? = some m) :
      CallsTo look settings x way a before ((before.draw (m.request settings)).1.map m.dress)
        (before.draw (m.request settings)).2 [m.request settings]

/-- The requests that the rules tell of are those that the source notes. -/
theorem CallsTo.requests {look : Look} {settings : Settings} {x : Member} {way : Way}
    {a : Arguments} {before after : Source} {outcome : Except Error Value}
    {requests : List Request} (h : CallsTo look settings x way a before outcome after requests) :
    after.requests = before.requests ++ requests := by
  cases h with
  | random => exact before.draw_requests _
  | _ => simp

variable (x : Member) (look : Look) (way : Way) (a : Arguments)

/-- What a call comes to when its way is allowed or not, and its arguments fit or not. -/
theorem perform_eq (before : Source) :
    x.perform look way a before =
      match way.check x with
      | .error e => (.error e, before)
      | .ok () =>
        match a.fault? x.definition.parameters with
        | some fault => (.error (x.refusal look fault), before)
        | none => x.resolver.resolve before := by
  unfold perform
  cases way.check x with
  | error e => rfl
  | ok u =>
      simp only
      rw [Stub.invoke_of_create x.created]
      cases a.fault? x.definition.parameters <;> rfl

/-- Of the arguments the shape alone counts. -/
theorem perform_congr {a b : Arguments} (h : a.SameShape b) (before : Source) :
    x.perform look way a before = x.perform look way b before := by
  rw [perform_eq, perform_eq, a.fault?_congr h]

theorem perform_callsTo {settings : Settings}
    (hx : x.resolver = x.definition.resolver settings)
    (hbinds : x.bindsToClass = x.definition.visibility.isClassLevel) (before : Source) :
    ∃ requests, CallsTo look settings x way a before (x.perform look way a before).1
      (x.perform look way a before).2 requests := by
  rw [perform_eq]
  rcases way.check_comesTo hbinds with ⟨_, hcheck, hallows⟩ | ⟨e, hcheck, hrefuses⟩
  · rw [hcheck]
    cases hfault : a.fault? x.definition.parameters with
    | some fault => exact ⟨_, .unfit hallows hfault (x.isRefusal_refusal look fault)⟩
    | none =>
        -- the resolver was settled by the definition when the member was made
        simp only [hx]
        by_cases hliteral :
            x.definition.generateRandom = true → x.definition.returnValue.marker? = none
        · rw [MethodDefinition.resolve_literal settings hliteral]
          exact ⟨_, .literal hallows hfault hliteral⟩
        · obtain ⟨hgenerate, hmarker⟩ := Classical.not_imp.1 hliteral
          obtain ⟨m, hm⟩ := Option.ne_none_iff_exists'.1 hmarker
          rw [MethodDefinition.resolve_random settings hgenerate hm]
          exact ⟨_, .random hallows hfault hgenerate hm⟩
  · rw [hcheck]
    exact ⟨_, .refused hrefuses⟩

end Member

end StubClass
