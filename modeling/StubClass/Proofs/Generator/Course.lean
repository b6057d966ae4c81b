import StubClass.Generator.Course

set_option autoImplicit false

/-! # What a course of work passes through

A course does one thing after another, and what it does is told by three equations, for looking, for
a step and for a declaration. A declaration is made of three parts, which follow each other unless
one of them fails: what comes before the callback (`Actions.opening`), the callback, and what comes
behind it (`Actions.closing`). A record notes things on the way, in callbacks as well. What each
part does to a record and to the state adds up to what a whole course does (`Record.Tells.run`), and
so does what each part does to the state alone (`Course.run_induct`). -/

namespace StubClass

variable {σ : Type}

/-- Work goes on with what was left, unless it failed. -/
theorem run_bind {α β : Type} (x : WorkOn σ α) (f : α → WorkOn σ β) (s : σ) :
    (x >>= f).run s =
      match x.run s with
      | (.ok a, after) => (f a).run after
      | (.error e, after) => (.error e, after) := by
  show (match x.run s with | (r, after) => ExceptT.bindCont f r after) = _
  rcases x.run s with ⟨r, after⟩
  cases r <;> rfl

theorem run_bind_ok {α β : Type} {x : WorkOn σ α} {s after : σ} {a : α}
    (h : x.run s = (.ok a, after)) (f : α → WorkOn σ β) :
    (x >>= f).run s = (f a).run after := by
  rw [run_bind, h]

theorem run_modifyGet {α : Type} (f : σ → α × σ) (s : σ) :
    (modifyGet f : WorkOn σ α).run s = (.ok (f s).1, (f s).2) :=
  rfl

/-! ## The parts of a declaration -/

namespace Actions

variable (A : Actions σ)

/-- What a declaration does before its callback: it tells the builder and its place, or fails. -/
def opening (site : A.Site) (name : Value) (visibility : Visibility) :
    WorkOn σ (MethodBuilder × Nat) := do
  let b ← A.start site name visibility
  if ← A.isDeclared site b then throw (.duplicateMethod b.name.toName)
  else return (b, ← A.openFor site b)

/-- What a declaration does behind its callback. -/
def closing (site : A.Site) (b : MethodBuilder) (place : Nat) : WorkOn σ Unit := do
  A.keep site (← A.reached site b place).freeze

theorem declaring_run (site : A.Site) (name : Value) (visibility : Visibility)
    (callback : Nat → WorkOn σ Unit) :
    (A.declaring site name visibility callback).run =
      A.opening site name visibility >>= fun opened =>
        callback opened.2 >>= fun _ => A.closing site opened.1 opened.2 := by
  unfold Declaring.run opening closing declaring
  simp only [bind_assoc, pure_bind]
  refine bind_congr fun b => bind_congr fun isDeclared => ?_
  cases isDeclared with
  | true => rfl
  | false => simp only [Bool.false_eq_true, if_false, bind_assoc, pure_bind]

end Actions

namespace Course

variable {A : Actions σ} (site : A.Site) (name : Value) (visibility : Visibility)
  (callback : Nat → Course A)

/-! ## One thing after another -/

theorem run_declare (next : Except Error Unit → Course A) (s : σ) :
    (declare site name visibility callback next).run s =
      (next (declareAt s site name visibility callback).1).run
        (declareAt s site name visibility callback).2 :=
  rfl

/-- A declaration fails before its callback, or with it, or goes on behind it. -/
theorem declareAt_eq (s : σ) :
    declareAt s site name visibility callback =
      match (A.opening site name visibility).run s with
      | (.error e, after) => (.error e, after)
      | (.ok (b, place), opened) =>
        match (callback place).run opened with
        | (.error e, after) => (.error e, after)
        | (.ok (), after) => (A.closing site b place).run after := by
  rw [declareAt, Actions.declaring_run, run_bind]
  rcases (A.opening site name visibility).run s with ⟨_ | ⟨b, place⟩, opened⟩
  · rfl
  · simp only
    have hcallback : (callback place).perform.run opened = (callback place).run opened := rfl
    rw [run_bind, hcallback]
    rcases (callback place).run opened with ⟨_ | _, after⟩ <;> rfl

end Course

/-! ## Records -/

/-- What is noted on the way: where a course ends, at a step, where a declaration starts, and behind
its callback. -/
structure Record (A : Actions σ) (ε : Type) where
  ended : σ → List ε
  step : A.Step → σ → List ε
  started : σ → List ε
  closing : A.Site → MethodBuilder → Nat → σ → List ε

/-- Nothing is noted. -/
def Record.empty (A : Actions σ) : Record A Empty :=
  ⟨fun _ => [], fun _ _ => [], fun _ => [], fun _ _ _ _ => []⟩

namespace Course

variable {A : Actions σ} {ε : Type} (w : Record A ε)

/-- What is noted of a course on a state, in callbacks as well. -/
def record : Course A → σ → List ε
  | done, s | fail _, s => w.ended s
  | look next, s => (next s).record s
  | step x next, s =>
    let stepped := (A.step x).run s
    w.step x s ++ (next stepped.1).record stepped.2
  | declare site name visibility callback next, s =>
    let inside := match (A.opening site name visibility).run s with
      | (.error _, _) => []
      | (.ok (_, place), opened) => (callback place).record opened
    let behind := match (A.opening site name visibility).run s with
      | (.error _, _) => []
      | (.ok (b, place), opened) =>
        match (callback place).run opened with
        | (.error _, _) => []
        | (.ok (), after) => w.closing site b place after
    let declared := declareAt s site name visibility callback
    w.started s ++ (inside ++ behind) ++ (next declared.1).record declared.2

section

variable (site : A.Site) (name : Value) (visibility : Visibility) (callback : Nat → Course A)

/-- What is noted in the callback of a declaration, if it is called. -/
def recordInside (s : σ) : List ε :=
  match (A.opening site name visibility).run s with
  | (.error _, _) => []
  | (.ok (_, place), opened) => (callback place).record w opened

/-- What is noted behind the callback of a declaration, if it returns. -/
def recordBehind (s : σ) : List ε :=
  match (A.opening site name visibility).run s with
  | (.error _, _) => []
  | (.ok (b, place), opened) =>
    match (callback place).run opened with
    | (.error _, _) => []
    | (.ok (), after) => w.closing site b place after

theorem record_declare (next : Except Error Unit → Course A) (s : σ) :
    (declare site name visibility callback next).record w s =
      w.started s ++ (recordInside w site name visibility callback s ++
          recordBehind w site name visibility callback s) ++
        (next (declareAt s site name visibility callback).1).record w
          (declareAt s site name visibility callback).2 := by
  rw [record, recordInside, recordBehind]

end

end Course

/-- A relation between what is noted, a state and a later one holds of each part of a course, and
from one part to the next. -/
structure Record.Tells {A : Actions σ} {ε : Type} (w : Record A ε)
    (R : List ε → σ → σ → Prop) : Prop where
  nil : ∀ s, R [] s s
  append : ∀ {l m : List ε} {a b c : σ}, R l a b → R m b c → R (l ++ m) a c
  ended : ∀ s, R (w.ended s) s s
  step : ∀ x s, R (w.step x s) s ((A.step x).run s).2
  opening : ∀ site name visibility s,
    R (w.started s) s ((A.opening site name visibility).run s).2
  closing : ∀ site name visibility s b place opened l after,
    (A.opening site name visibility).run s = (.ok (b, place), opened) → R l opened after →
      R (w.closing site b place after) after ((A.closing site b place).run after).2

namespace Record.Tells

variable {A : Actions σ} {ε : Type} {w : Record A ε} {R : List ε → σ → σ → Prop}

/-- What holds of the parts of a declaration and of its callback holds of the declaration. -/
theorem declareAt (h : w.Tells R) {callback : Nat → Course A}
    (hcallback : ∀ place s, R ((callback place).record w s) s ((callback place).run s).2)
    (site : A.Site) (name : Value) (visibility : Visibility) (s : σ) :
    R (w.started s ++ (Course.recordInside w site name visibility callback s ++
        Course.recordBehind w site name visibility callback s)) s
      (Course.declareAt s site name visibility callback).2 := by
  have hopening := h.opening site name visibility s
  rw [Course.declareAt_eq, Course.recordInside, Course.recordBehind]
  rcases hopened : (A.opening site name visibility).run s with ⟨e | ⟨b, place⟩, opened⟩
  · rw [hopened] at hopening
    simpa using hopening
  · rw [hopened] at hopening
    have hinside := hcallback place opened
    simp only
    rcases hrun : (callback place).run opened with ⟨e | _, after⟩
    · rw [hrun] at hinside
      simpa using h.append hopening hinside
    · rw [hrun] at hinside
      exact h.append hopening (h.append hinside (h.closing _ _ _ _ _ _ _ _ _ hopened hinside))

/-- What holds of each part holds of a whole course, however it ends. -/
theorem run (h : w.Tells R) (c : Course A) (s : σ) : R (c.record w s) s (c.run s).2 := by
  induction c generalizing s with
  | done => exact h.ended s
  | fail e => exact h.ended s
  | look next ih => exact ih s s
  | step x next ih => exact h.append (h.step x s) (ih _ _)
  | declare site name visibility callback next ihcallback ihnext =>
      rw [Course.record_declare, Course.run_declare]
      exact h.append (h.declareAt ihcallback site name visibility s) (ihnext _ _)

end Record.Tells

namespace Course

variable {A : Actions σ}

/-- What each part of a course does to the state adds up to what the course does. -/
theorem run_induct {R : σ → σ → Prop} (refl : ∀ s, R s s)
    (trans : ∀ {a b c : σ}, R a b → R b c → R a c) (step : ∀ x s, R s ((A.step x).run s).2)
    (opening : ∀ site name visibility s, R s ((A.opening site name visibility).run s).2)
    (closing : ∀ site name visibility s b place opened after,
      (A.opening site name visibility).run s = (.ok (b, place), opened) → R opened after →
        R after ((A.closing site b place).run after).2) (c : Course A) (s : σ) :
    R s (c.run s).2 := by
  have htells : (Record.empty A).Tells fun _ => R :=
    { nil := refl
      append := trans
      ended := refl
      step := step
      opening := opening
      closing := fun site name visibility s b place opened _ after => closing site name visibility s
        b place opened after }
  exact htells.run c s

end Course

end StubClass
