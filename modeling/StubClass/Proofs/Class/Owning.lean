import StubClass.Proofs.Class.Access
import StubClass.Proofs.Class.Growing

set_option autoImplicit false

/-! # Which class a member is guarded for

Whenever a class is made, all members that it holds are told that it is the one they were made for,
and what they were told before is lost. So when classes were created one after another, a member is
guarded for the last one that holds it (`createAll_tells`). Classes that do not hold it themselves,
such as those that are derived from the one that does, change nothing. -/

namespace StubClass

namespace Registry

/-! ## The last class that holds a member -/

/-- The place of the last class that holds a member, among some that stand from a place on. -/
def lastHolder? (member : Nat) : (start : Nat) → List BuiltClass → Option Nat
  | _, [] => none
  | start, c :: cs =>
    (lastHolder? member (start + 1) cs).or (if c.own.holds member then some start else none)

variable {member start : Nat} {cs ds : List BuiltClass}

theorem lastHolder?_append :
    lastHolder? member start (cs ++ ds) =
      (lastHolder? member (start + cs.length) ds).or (lastHolder? member start cs) := by
  induction cs generalizing start with
  | nil => simp [lastHolder?]
  | cons c cs ih =>
      rw [List.cons_append, lastHolder?, lastHolder?, ih, List.length_cons, Option.or_assoc,
        Nat.add_right_comm, Nat.add_assoc]

variable (start) in
theorem lastHolder?_eq_none_iff :
    lastHolder? member start cs = none ↔ ∀ c ∈ cs, c.own.holds member = false := by
  induction cs generalizing start with
  | nil => simp [lastHolder?]
  | cons c cs ih =>
      rw [lastHolder?, Option.or_eq_none_iff, ih, List.forall_mem_cons, and_comm]
      cases c.own.holds member <;> simp

theorem lastHolder?_of_last {c : BuiltClass} (hc : c.own.holds member = true)
    (hds : ∀ d ∈ ds, d.own.holds member = false) :
    lastHolder? member start (cs ++ c :: ds) = some (start + cs.length) := by
  rw [lastHolder?_append, lastHolder?, (lastHolder?_eq_none_iff _).2 hds, if_pos hc]
  rfl

theorem le_of_lastHolder?_eq_some {last : Nat} (h : lastHolder? member start cs = some last) :
    start ≤ last := by
  induction cs generalizing start with
  | nil => cases h
  | cons c cs ih =>
      rw [lastHolder?, Option.or_eq_some_iff] at h
      rcases h with h | ⟨-, h⟩
      · exact Nat.le_of_succ_le (ih h)
      · split at h
        · exact (Option.some.inj h).le
        · cases h

/-! ## What members are told -/

/-- What became of the classes and members of a registry when some classes were made. -/
structure Tells (new old : Registry) (made : List BuiltClass) : Prop where
  classes : new.classes = old.classes ++ made
  members : ∀ (place : Nat) (x : Member), old.members[place]? = some x →
    new.members[place]? =
      some { x with owner := (lastHolder? place old.classes.length made).or x.owner }

theorem Tells.refl (r : Registry) : r.Tells r [] where
  classes := (List.append_nil _).symm
  members _ _ hx := hx

theorem Tells.trans {a b c : Registry} {first second : List BuiltClass} (hcb : c.Tells b second)
    (hba : b.Tells a first) : c.Tells a (first ++ second) where
  classes := by rw [hcb.classes, hba.classes, List.append_assoc]
  members place x hx := by
    rw [hcb.members place _ (hba.members place x hx), hba.classes, lastHolder?_append,
      List.length_append, Option.or_assoc]

theorem make_tells {r next : Registry} {title : Name} {own : Namespace}
    (h : r.make title own = .ok next) : ∃ c, next.Tells r [c] := by
  obtain ⟨-, rfl⟩ := (make_eq_ok_iff r title own next).1 h
  refine ⟨⟨title, pathOf title own, own.remove (.ofText "__qualname__")⟩, rfl,
    fun place x hx => ?_⟩
  simp only [adopt, List.getElem?_mapIdx, hx, Option.map_some, lastHolder?, Option.none_or]
  split <;> rfl

/-- A class that is built is made after its members, which stand behind all others. -/
theorem build_tells {r built : Registry} {settings : Settings} {ds : List MethodDefinition}
    (h : r.build settings ds = .ok built) : ∃ c, built.Tells r [c] := by
  rw [build_eq] at h
  cases hadded : (r.building settings ds).addAll (r.members, settings.notes) ds with
  | error e => simp [hadded] at h
  | ok after =>
      rw [hadded] at h
      -- the new members stand behind all others, so those keep their places
      obtain ⟨new, hmembers, -⟩ := (addAll_added r ds hadded).members
      obtain ⟨c, hclasses, htold⟩ := make_tells h
      refine ⟨c, hclasses, fun place x hx => htold place x ?_⟩
      obtain ⟨hlength, -⟩ := List.getElem?_eq_some_iff.1 hx
      show after.1[place]? = some x
      rw [hmembers, List.getElem?_append_left hlength, hx]

theorem create_tells {r next : Registry} {c : Creation} (h : r.create c = .ok next) :
    ∃ k, next.Tells r [k] := by
  cases c with
  | build settings ds => exact build_tells h
  | make title own => exact make_tells h

/-- After any creations every member was told of the last class that was made with it. -/
theorem createAll_tells (r : Registry) (cs : List Creation) :
    ∃ made, (r.createAll cs).Tells r made := by
  induction cs generalizing r with
  | nil => exact ⟨[], .refl r⟩
  | cons c cs ih =>
      rw [createAll]
      cases hcreate : r.create c with
      | error e => exact ih r
      | ok next =>
          obtain ⟨k, hk⟩ := create_tells hcreate
          obtain ⟨made, hmade⟩ := ih next
          exact ⟨[k] ++ made, hmade.trans hk⟩

/-! ## Calls -/

/-- **A member is guarded for the last class that was made with it.** Take a member that was made
for one of the classes that are there, and create further classes, of which some may fail before
their members are told of them. The member stays the same but for its class: that is the one it was
made for exactly when none of the new classes holds the member itself, under whatever name, and else
the last of them that does. A call of it is let through when the caller's code is behind something
that this class holds (or, for a protected member, one derived from it, and from anywhere for a
public one), and refused in the name of this class when it is not. -/
theorem owner_createAll (r : Registry) (cs : List Creation) {place owner : Nat} {x : Member}
    (hx : r.members[place]? = some x) (howner : x.owner = some owner)
    (hthere : owner < r.classes.length) :
    ∃ made last, (r.createAll cs).classes = r.classes ++ made ∧
      (r.createAll cs).members[place]? = some { x with owner := some last } ∧
      (last = owner ↔ ∀ c ∈ made, c.own.holds place = false) ∧
      (∀ before c behind, made = before ++ c :: behind → c.own.holds place = true →
        (∀ d ∈ behind, d.own.holds place = false) → last = r.classes.length + before.length) ∧
      ∀ scene : Scene,
        (x.definition.visibility.isPublic = false →
          scene.landscape.AnswersPlainly x.definition (scene.classAt last) ∧
            ¬ scene.landscape.IsEndless x.definition (scene.classAt last)) →
        (scene.check { x with owner := some last } = .ok () ↔
          scene.landscape.MayCall x.definition (scene.classAt last) (some scene.caller)) ∧
        (scene.check { x with owner := some last } =
            .error (.access x.definition.name x.definition.visibility
              (scene.landscape.facet (scene.classAt last)).title) ↔
          ¬ scene.landscape.MayCall x.definition (scene.classAt last) (some scene.caller)) := by
  obtain ⟨made, hclasses, hmembers⟩ := r.createAll_tells cs
  have hmember := hmembers place x hx
  refine ⟨made, (lastHolder? place r.classes.length made).getD owner, hclasses, ?_, ?_, ?_, ?_⟩
  · rw [hmember, howner]
    cases lastHolder? place r.classes.length made <;> rfl
  · rw [← lastHolder?_eq_none_iff r.classes.length]
    cases hlast : lastHolder? place r.classes.length made with
    | none => simp
    | some last =>
        -- the new classes stand behind the one that the member was made for
        have hle := le_of_lastHolder?_eq_some hlast
        have hne : last ≠ owner := by omega
        simpa using hne
  · rintro before c behind rfl hc hbehind
    rw [lastHolder?_of_last hc hbehind, Option.getD_some]
  · intro scene hplain
    exact scene.landscape.checkAccess_caller hplain

/-- Two classes, each with one function, and a function outside. -/
def twoOwners : Landscape where
  size := 5
  facet
    | 0 => { (Facet.blank : Facet (Fin 5)) with title := .ofText "Base", members := [2] }
    | 1 => { (Facet.blank : Facet (Fin 5)) with title := .ofText "Later", members := [3] }
    | 2 => { (Facet.blank : Facet (Fin 5)) with code? := some (.mk "f" []) }
    | 3 => { (Facet.blank : Facet (Fin 5)) with code? := some (.mk "h" []) }
    | 4 => { (Facet.blank : Facet (Fin 5)) with code? := some (.mk "g" []) }

/-- A call by some code on an instance of the first of two classes. -/
def twoOwners.scene (caller : Code) : Scene where
  landscape := twoOwners.plain
  classAt n := if n = 0 then (0 : Fin 5) else (1 : Fin 5)
  receiver := (0 : Fin 5)
  caller := caller

/-- A private member of a built class may be called by the function of that class. When a later
class was made that holds the member too, the function of that one may call it, and the first one
may not any more; nor may a function outside. -/
theorem owner_createAll_reused :
    let p : MethodDefinition :=
      (MethodBuilder.empty ⟨.ofText "p", by decide +kernel⟩ .privateMember).freeze
    ∃ r x, Registry.empty.create (.build .standard [p]) = .ok r ∧ r.members[0]? = some x ∧
      x.owner = some 0 ∧ 0 < r.classes.length ∧
      (twoOwners.scene (.mk "f" [])).check x = .ok () ∧
      ∃ y, (r.createAll [.make (.ofText "Later") ⟨[(.ofText "q", .member 0)]⟩]).members[0]? =
          some y ∧
        (twoOwners.scene (.mk "h" [])).check y = .ok () ∧
        ∀ caller, caller = .mk "f" [] ∨ caller = .mk "g" [] →
          (twoOwners.scene caller).check y =
            .error (.access (.str "p") .privateMember (.ofText "Later")) := by
  intro p
  obtain ⟨r, hr⟩ : ∃ r, Registry.empty.create (.build .standard [p]) = .ok r := ⟨_, rfl⟩
  obtain ⟨x, hx, howner, hdefinition, hlength⟩ :
      ∃ x, r.members[0]? = some x ∧ x.owner = some 0 ∧ x.definition = p ∧ r.classes.length = 1 := by
    cases hr
    exact ⟨_, rfl, rfl, rfl, rfl⟩
  let later : BuiltClass := ⟨.ofText "Later", .ofText "Later", ⟨[(.ofText "q", .member 0)]⟩⟩
  have hlater :
      (r.createAll [.make (.ofText "Later") later.own]).classes = r.classes ++ [later] := by
    cases hr
    rfl
  have hthere : 0 < r.classes.length := by omega
  obtain ⟨made, last, hclasses, hmember, -, hlast, hcheck⟩ :=
    owner_createAll r [.make (.ofText "Later") later.own] hx howner hthere
  obtain rfl : made = [later] := List.append_cancel_left (hclasses.symm.trans hlater)
  obtain rfl : last = 1 := by
    rw [hlast [] later [] rfl rfl (by simp), hlength]
    rfl
  have hsettled : ∀ z, twoOwners.IsSettled z := Landscape.isSettled_of_lt (by decide)
  have hmay : twoOwners.MayCall x.definition (1 : Fin 5) (some (.mk "h" [])) :=
    .inr ⟨_, rfl, (1 : Fin 5), .inl rfl, (3 : Fin 5), List.mem_singleton_self _,
      (3 : Fin 5), (3 : Fin 5), .refl, rfl, .refl, _, rfl, .refl⟩
  have hscene (caller : Code) (y : Member) (hy : y.definition = p) :
      (twoOwners.scene caller).check y =
        twoOwners.checkAccess p ((twoOwners.scene caller).owner y) (some caller) :=
    hy ▸ rfl
  refine ⟨r, x, hr, hx, howner, hthere, ?_, _, hmember, ?_, ?_⟩
  · rw [hscene _ x hdefinition, Scene.owner, howner]
    rfl
  · exact (hcheck (twoOwners.scene (.mk "h" [])) fun _ => ⟨twoOwners.answersPlainly _ _,
      fun ⟨_, _, y, _, hunsettled⟩ => hunsettled (hsettled y)⟩).1.2 hmay
  · rintro caller (rfl | rfl) <;>
      exact (hscene _ { x with owner := some 1 } hdefinition).trans rfl

end Registry

end StubClass
