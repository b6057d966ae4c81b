import StubClass.Class.Registry
import StubClass.Class.Subject
import StubClass.Generator.Course
import StubClass.Library.Generator
import StubClass.Proofs.Class.Access
import StubClass.Proofs.Class.Finding
import StubClass.Proofs.Correspondence.Access

set_option autoImplicit false

/-! # Sessions and what stands for them

Generators, classes, subjects and landscapes stand for objects of a session. What is done to them
and what is done to the objects are the same steps, so a session comes to the same as soon as its
objects answer the questions of the steps as they do: in a declaration (`declare_corresponds`), in a
call from inside (`send_corresponds`), in building a class (`buildClass_corresponds`), in finding
its members (`finding_corresponds`) and in the check of a call
(`RaisingLandscape.checkAccess_corresponds`). A world of a session has more in it than the state
that stands for it, and what an object stands for may depend on both. -/

namespace StubClass

open StubClass.Random (Source)

/-! ## Parts on states and parts of a session -/

/-- What the parts of a kind come to on states. -/
structure Outcomes (n : Type → Type) [Monad n] (σ : Type) where
  run : {α : Type} → n α → σ → Except Error α × σ
  run_pure : ∀ {α : Type} (a : α) (s : σ), run (pure a) s = (.ok a, s)
  run_bind : ∀ {α β : Type} (x : n α) (f : α → n β) (s : σ), run (x >>= f) s =
    match run x s with
    | (.ok a, s') => run (f a) s'
    | (.error e, s') => (.error e, s')

namespace Outcomes

/-- Parts that may fail and look at no state. -/
def ofExcept : Outcomes (Except Error) Unit where
  run x s := (x, s)
  run_pure _ _ := rfl
  run_bind x _ _ := by cases x <;> rfl

/-- Parts that do not fail. -/
def ofState (σ : Type) : Outcomes (StateM σ) σ where
  run x s := let (a, s) := x.run s; (.ok a, s)
  run_pure _ _ := rfl
  run_bind _ _ _ := rfl

/-- Parts that may fail. -/
def ofWork (σ : Type) : Outcomes (ExceptT Error (StateM σ)) σ where
  run x s := StateT.run (ExceptT.run x) s
  run_pure _ _ := rfl
  run_bind x f s := by
    show StateT.run (ExceptT.run x >>= ExceptT.bindCont f) s = _
    rw [StateT.run_bind]
    rcases StateT.run (ExceptT.run x) s with ⟨e | a, s'⟩ <;> rfl

end Outcomes

/-- A failure is of the kind of an error, and says the same. -/
def Failure.Says (f : Failure) (e : Error) : Prop :=
  f.kind = (ofError e).kind ∧ f.message = (ofError e).message

theorem Run.bind_run {α β : Type} (x : Run α) (f : α → Run β) (c : Context) (w : World) :
    (x >>= f) c w =
      match x c w with
      | .ok a w => f a c w
      | .error e w => .error e w := by
  show EStateM.bind (x c) (fun a => f a c) w = _
  rw [EStateM.bind]
  cases x c w <;> rfl

/-! ## Worlds that states stand for -/

/-- Which states stand for which worlds, and what may become of them. -/
structure Portrayal (σ : Type) where
  IsTrue : σ → World → Prop
  IsLater : σ × World → σ × World → Prop
  refl : ∀ i : σ × World, IsLater i i
  trans : ∀ {i j k : σ × World}, IsLater i j → IsLater j k → IsLater i k

namespace Portrayal

variable {σ : Type} (p : Portrayal σ)

/-- A state and a world that it stands for. -/
abbrev Situation : Type :=
  { i : σ × World // p.IsTrue i.1 i.2 }

/-- What a part comes to on a state stands for what a part of a session comes to in a world, unless
the first fails in a way that nothing is said of. -/
def Answers (isLeftOut : Error → Prop) {α β : Type} (R : p.Situation → α → β → Prop)
    (i : σ × World) : Except Error α × σ → EStateM.Result Failure World β → Prop
  | (.ok a, s), .ok b w => p.IsLater i (s, w) ∧ ∃ h : p.IsTrue s w, R ⟨(s, w), h⟩ a b
  | (.ok _, _), .error _ _ => False
  | (.error e, s), .error f w => isLeftOut e ∨ f.Says e ∧ p.IsLater i (s, w) ∧ p.IsTrue s w
  | (.error e, _), .ok _ _ => isLeftOut e

variable {p} {isLeftOut : Error → Prop} {α β : Type} {R : p.Situation → α → β → Prop}

theorem Answers.of_isLeftOut {e : Error} (h : isLeftOut e) (i : σ × World) (s : σ) :
    ∀ y, p.Answers isLeftOut R i (.error e, s) y
  | .ok _ _ => h
  | .error _ _ => .inl h

theorem Answers.of_isLater {i j : σ × World} (hij : p.IsLater i j) {x : Except Error α × σ}
    {y : EStateM.Result Failure World β} (h : p.Answers isLeftOut R j x y) :
    p.Answers isLeftOut R i x y := by
  rcases x with ⟨e | a, s⟩ <;> cases y
  case error.ok b w => exact h
  case error.error f w =>
    exact h.imp id fun ⟨hsame, hlater, htrue⟩ => ⟨hsame, p.trans hij hlater, htrue⟩
  case ok.ok b w => exact ⟨p.trans hij h.1, h.2⟩
  case ok.error f w => exact h.elim

variable (p) in
/-- Parts on states and parts of a session that come to the same in surroundings. -/
def correspondence {n : Type → Type} [Monad n] (r : Outcomes n σ) (c : Context)
    (isLeftOut : Error → Prop) : Correspondence n Run where
  Situation := p.Situation
  IsLater i j := p.IsLater i.1 j.1
  trans := p.trans
  Rel R i x y := p.Answers isLeftOut R i.1 (r.run x i.1.1) (y c i.1.2)
  pure {α β R i a b} h := by
    rw [r.run_pure]
    exact ⟨p.refl i.1, i.2, h⟩
  bind {α β γ δ R S i x y f g} h hnext := by
    rw [r.run_bind, Run.bind_run]
    rcases hx : r.run x i.1.1 with ⟨e | a, s⟩ <;> cases hy : y c i.1.2 <;> rw [hx, hy] at h
    case error.ok b w => exact .of_isLeftOut h i.1 s _
    case error.error f w => exact h
    case ok.ok b w =>
      obtain ⟨hlater, htrue, hab⟩ := h
      exact (hnext ⟨(s, w), htrue⟩ hlater a b hab).of_isLater hlater
    case ok.error f w => exact h.elim

end Portrayal

variable {σ : Type} {p : Portrayal σ} {isLeftOut : Error → Prop} {c : Context}

/-! ## Declarations -/

/-- A declaration on a generator as an object does what the declaration on what stands for it does,
callback and all. -/
theorem declare_corresponds {A : Actions σ} {site : A.Site} {name : Value}
    {visibility : Visibility} {callback : Nat → Course A}
    {self nameObj visibilityObj configure : Obj} {B : p.Situation → MethodBuilder → Obj → Prop}
    {D : p.Situation → MethodDefinition → Obj → Prop}
    (h : (A.declaring site name visibility fun place => (callback place).perform).Corresponds
      (p.correspondence (.ofWork σ) c isLeftOut) B D
      (declaring self nameObj visibilityObj configure))
    (hB : (p.correspondence (.ofWork σ) c isLeftOut).Stays B) (i : p.Situation) :
    p.Answers isLeftOut (fun _ _ x => x = .none) i.1
      (Course.declareAt i.1.1 site name visibility callback)
      (declare self nameObj visibilityObj configure c i.1.2) := by
  have hrun := (p.correspondence (.ofWork σ) c isLeftOut).bind (h.run hB i)
    (S := fun _ (_ : Unit) x => x = Obj.none) (f := pure) (g := fun _ => pure .none)
    fun j _ _ _ _ => (p.correspondence (.ofWork σ) c isLeftOut).pure rfl
  rw [bind_pure] at hrun
  exact hrun

/-! ## Calls from inside -/

/-- A call from inside of an object comes to what the call of the subject that stands for it comes
to. -/
theorem send_corresponds {p : Portrayal Source} {s : Subject} {name : Name} {a : Arguments}
    {target : Obj} {text : String} {rest : Operands} {M : p.Situation → Member → Obj → Prop}
    {P : p.Situation → Value → Obj → Prop}
    (h : (s.sending name a).Corresponds (p.correspondence (.ofWork Source) c isLeftOut) M P
      (sending target text rest))
    (hM : (p.correspondence (.ofWork Source) c isLeftOut).Stays M) (i : p.Situation) :
    p.Answers isLeftOut P i.1 ((s.sending name a).run.run i.1.1) (send target text rest c i.1.2) :=
  h.run hM i

/-! ## Building classes and finding members -/

/-- Building a class as an object comes to what building the class that stands for it comes to. -/
theorem buildClass_corresponds {p : Portrayal Unit} {r : Registry} {settings : Settings}
    {ds : List MethodDefinition} {definitions settingsObj source : Obj}
    {D : p.Situation → MethodDefinition → Obj → Prop}
    {N : p.Situation → List Member × Namespace → Obj → Prop}
    {K : p.Situation → Registry → Obj → Prop}
    (h : (r.building settings ds).Corresponds (p.correspondence .ofExcept c isLeftOut) D N K
      (building definitions settingsObj source))
    (hD : (p.correspondence .ofExcept c isLeftOut).Stays D)
    (hN : (p.correspondence .ofExcept c isLeftOut).Stays N) (i : p.Situation) :
    p.Answers isLeftOut K i.1 (r.build settings ds, ())
      (buildClass definitions settingsObj source c i.1.2) :=
  h.run hD hN i

/-- The members that are collected of a class as an object are those of the class that stands for
it. -/
theorem finding_corresponds {p : Portrayal (List (Name × Nat))} {order : List BuiltClass}
    {members class_ : Obj} {K : p.Situation → BuiltClass → Obj → Prop}
    {E : p.Situation → Name × Held → Obj → Prop} {H : p.Situation → Name → Obj → Prop}
    {N : p.Situation → Held → Obj → Prop} {S : p.Situation → List Name → Table → Prop}
    (h : (Registry.finding order).Corresponds (p.correspondence (.ofState _) c isLeftOut) K E H N S
      (finding members class_))
    (hstays : Finding.Stays (p.correspondence (.ofState _) c isLeftOut) K E H N S)
    (i : p.Situation) (hi : i.1.1 = []) :
    p.Answers isLeftOut (fun _ => Eq) i.1
      (.ok (), Registry.stubMembers [] (order.flatMap fun c => c.own.entries))
      ((finding members class_).collect c i.1.2) := by
  have hcollect := h.collect hstays i
  have hrun : (Outcomes.ofState (List (Name × Nat))).run (Registry.finding order).collect i.1.1 =
      (.ok (), Registry.stubMembers [] (order.flatMap fun c => c.own.entries)) := by
    rw [hi]
    exact congrArg (fun r : Unit × List (Name × Nat) => (Except.ok r.1, r.2))
      (Registry.collect_run order)
  exact hrun ▸ hcollect

/-! ## Checks of calls -/

namespace RaisingLandscape

variable {R : RaisingLandscape} {d : MethodDefinition} {owner : Fin R.size}

theorem not_mem_of_isAmong {x : Fin R.size} {xs : List (Fin R.size)}
    (h : R.isAmong x xs = .ok false) : x ∉ xs := by
  induction xs with
  | nil => exact List.not_mem_nil
  | cons y ys ih =>
      rw [isAmong] at h
      by_cases hyx : y = x
      · rw [if_pos hyx] at h
        cases h
      · rw [if_neg hyx] at h
        cases hequal : R.equal y x with
        | error e =>
            rw [hequal] at h
            cases h
        | ok same =>
            rw [hequal] at h
            cases same with
            | true => cases h
            | false => exact List.not_mem_cons_of_ne_of_not_mem (Ne.symm hyx) (ih h)

variable {p : Portrayal Unit} {definition ownerObj : Obj} {K : p.Situation → Code → Obj → Prop}

variable (R d owner definition ownerObj K) in
/-- A session has room for all that there is in a landscape. -/
theorem hasRoom (hroom : ∀ i : p.Situation,
      R.size + R.codeCount + 1 ≤ chainFuel + i.1.2.heap.size) (hdepth : R.size + 1 ≤ chainFuel) :
    (R.gate d owner).HasRoom (p.correspondence .ofExcept c (· = .tooManyLayers)) K
      (StubClass.gate definition ownerObj) where
  tooDeep i y := by
    show p.Answers (· = .tooManyLayers) _ i.1 (.error .tooManyLayers, ()) (y c i.1.2)
    refine .of_isLeftOut ?_ i.1 () _
    rfl
  room i := by
    refine ⟨p.refl i.1, i.2, hroom i, fun x => ?_⟩
    obtain ⟨more, hmore⟩ := Nat.exists_eq_add_of_le (hroom i)
    show _ = descendants _ _ (chainFuel + i.1.2.heap.size) x
    rw [hmore]
    exact (descendantsFrom_add (fun _ _ => not_mem_of_isAmong) (fun _ => R.length_le_size) _ more 0
      (List.nodup_singleton x) (by omega)).symm
  depth i := ⟨p.refl i.1, i.2, hdepth⟩

/-- The check of a call in a session comes to what it comes to in a landscape that stands for the
objects, unless layers go on without an end there. -/
theorem checkAccess_corresponds {A : p.Situation → Fin R.size → Obj → Prop}
    {F : p.Situation → Code → Frame → Prop}
    (h : (R.gate d owner).Corresponds (p.correspondence .ofExcept c (· = .tooManyLayers)) A K F
      (StubClass.gate definition ownerObj))
    (hA : (p.correspondence .ofExcept c (· = .tooManyLayers)).Stays A)
    (hK : (p.correspondence .ofExcept c (· = .tooManyLayers)).Stays K)
    (hF : (p.correspondence .ofExcept c (· = .tooManyLayers)).Stays F)
    (hroom : ∀ i : p.Situation, R.size + R.codeCount + 1 ≤ chainFuel + i.1.2.heap.size)
    (hdepth : R.size + 1 ≤ chainFuel) (i : p.Situation) (howner : A i owner ownerObj)
    {caller : Option Code} {callerFrame : Caller} (hcaller : Option.Rel (F i) caller callerFrame) :
    p.Answers (· = .tooManyLayers) (fun _ => Eq) i.1 (R.checkAccess d owner caller, ())
      (StubClass.checkAccess definition ownerObj callerFrame c i.1.2) :=
  h.check (hasRoom R d owner definition ownerObj K hroom hdepth) hA hK hF howner hcaller

end RaisingLandscape

end StubClass
