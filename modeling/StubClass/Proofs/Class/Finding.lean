import StubClass.Class.Registry
import StubClass.Proofs.Class.Namespace
import StubClass.Proofs.Class.Sending

set_option autoImplicit false

/-! # Finding generated members

Two ways lead from a class to a generated member. Finding goes once through what all classes along
the resolution order hold, and keeps what it comes to under a name that was not seen before
(`collect_run`). A call from inside looks for one name, in one class after the other. Both end at
the first class that holds anything under the name (`memberOf?_eq`, `Subject.found?_eq`), so a
member that is hidden by something else, and that by another member, comes out the same.
`Registry.visibilityOf_eq_found` puts this together. -/

namespace StubClass

open Relation

/-! ## Enforcing a visibility -/

/-- A member lets through the calls that a visibility allows, and refuses the others with an error
that names it: all may call what is public, the code of the owner what is private, and the code of
what is derived from the owner as well what is protected. Only where the check asks are objects to
answer plainly, and layers to come to an end. -/
def Member.Enforces (x : Member) (v : Visibility) : Prop :=
  ∀ scene : Scene,
    let L := scene.landscape
    let owner : Fin L.size := scene.owner x
    let allowed (c : Fin L.size) :=
      c = owner ∨ v = .protectedMember ∧ ReflTransGen L.Derives owner c
    let may := v.isPublic = true ∨
      ∃ c, allowed c ∧ ∃ y ∈ (L.facet c).members, L.IsBehind y scene.caller
    (v.isPublic = false →
        L.AnswersPlainly x.definition owner ∧ ¬ L.IsEndless x.definition owner) →
      (scene.check x = .ok () ↔ may) ∧
        (scene.check x = .error (.access x.definition.name v (L.facet owner).title) ↔ ¬ may)

theorem Member.enforces (x : Member) : x.Enforces x.definition.visibility := by
  intro scene L owner allowed may hplain
  have hmay : L.MayCall x.definition owner (some scene.caller) ↔ may := by
    show (_ ∨ ∃ k, some scene.caller = some k ∧ _) ↔ _
    simp only [Option.some.injEq, exists_eq_left']
    rfl
  rw [← hmay]
  exact L.checkAccess_caller hplain

namespace Registry

/-! ## Collecting -/

/-- The names that were seen after entries. -/
def seenBehind (seen : List Name) (entries : List (Name × Held)) : List Name :=
  entries.foldl (fun seen e => if seen.any e.1.same then seen else e.1 :: seen) seen

theorem stubMembers_append (seen : List Name) (es fs : List (Name × Held)) :
    stubMembers seen (es ++ fs) = stubMembers seen es ++ stubMembers (seenBehind seen es) fs := by
  induction es generalizing seen with
  | nil => rfl
  | cons e es ih =>
      rw [List.cons_append, stubMembers, stubMembers, seenBehind, List.foldl_cons]
      split
      · exact ih seen
      · cases e.2.place? with
        | none => exact ih _
        | some place => exact congrArg _ (ih _)

variable (order : List BuiltClass)

theorem collectEntries_run (seen : List Name) (entries : List (Name × Held))
    (found : List (Name × Nat)) :
    ((finding order).collectEntries seen entries).run found =
      (seenBehind seen entries, found ++ stubMembers seen entries) := by
  induction entries generalizing seen found with
  | nil => exact congrArg _ (List.append_nil found).symm
  | cons e entries ih =>
      have hstep : ((finding order).collectEntries seen (e :: entries)).run found =
          if seen.any e.1.same then ((finding order).collectEntries seen entries).run found
          else ((finding order).collectEntries (e.1 :: seen) entries).run
            (found ++ (e.2.place?.map fun place => (e.1, place)).toList) := by
        rw [Finding.collectEntries]
        simp only [finding, pure_bind]
        split
        · rfl
        · cases e.2.place? <;> simp
      rw [hstep, stubMembers, seenBehind, List.foldl_cons]
      split
      · exact ih seen found
      · rw [ih]
        cases e.2.place? <;> simp [seenBehind]

theorem collectAlong_run (seen : List Name) (cs : List BuiltClass) (found : List (Name × Nat)) :
    ((finding order).collectAlong seen cs).run found =
      ((), found ++ stubMembers seen (cs.flatMap fun c => c.own.entries)) := by
  induction cs generalizing seen found with
  | nil => exact congrArg _ (List.append_nil found).symm
  | cons c cs ih =>
      rw [Finding.collectAlong]
      show (((finding order).collectEntries seen c.own.entries) >>= fun seen =>
        (finding order).collectAlong seen cs).run found = _
      rw [StateT.run_bind, collectEntries_run]
      show ((finding order).collectAlong _ cs).run _ = _
      rw [ih, List.flatMap_cons, stubMembers_append, List.append_assoc]

/-- Finding collects the generated members among all that the classes hold. -/
theorem collect_run : (finding order).collect.run [] =
    ((), stubMembers [] (order.flatMap fun c => c.own.entries)) :=
  collectAlong_run order [] order []

theorem not_seen_of_mem {seen : List Name} {entries : List (Name × Held)} {e : Name × Nat}
    (h : e ∈ stubMembers seen entries) : seen.any e.1.same = false := by
  induction entries generalizing seen with
  | nil => cases h
  | cons f entries ih =>
      rw [stubMembers] at h
      split at h
      · exact ih h
      · next hnot =>
          have hlater : e ∈ stubMembers (f.1 :: seen) entries → seen.any e.1.same = false :=
            fun he => (Bool.or_eq_false_iff.1 (ih he)).2
          cases hplace : f.2.place? with
          | none => exact hlater (by simpa [hplace] using h)
          | some place =>
              rw [hplace] at h
              rcases List.mem_cons.1 h with rfl | he
              · exact Bool.eq_false_iff.2 hnot
              · exact hlater he

/-- Under each name one generated member is found at most. -/
theorem stubMembers_pairwise (seen : List Name) (entries : List (Name × Held)) :
    (stubMembers seen entries).Pairwise fun e f => e.1.same f.1 = false := by
  induction entries generalizing seen with
  | nil => exact .nil
  | cons e entries ih =>
      rw [stubMembers]
      split
      · exact ih seen
      · cases e.2.place? with
        | none => exact ih _
        | some place =>
            refine .cons (fun f hf => ?_) (ih _)
            have hseen := (Bool.or_eq_false_iff.1 (not_seen_of_mem hf)).1
            rw [Bool.eq_false_iff, ne_eq, Name.same_iff] at hseen ⊢
            exact fun h => hseen h.symm

/-! ## The first class with the name -/

/-- What is held under a name by the first of some classes that holds anything there. -/
def held? (order : List BuiltClass) (name : Name) : Option Held :=
  order.findSome? fun c => c.own.held? name

theorem held?_eq_find? (name : Name) :
    held? order name =
      ((order.flatMap fun c => c.own.entries).find? fun e => e.1.same name).map (·.2) := by
  rw [List.find?_flatMap, List.map_findSome?]
  rfl

/-- The place that is found under a name is that of the member which the first class with the name
holds. -/
theorem stubMembers_held? (name : Name) :
    ((stubMembers [] (order.flatMap fun c => c.own.entries)).find? fun e => e.1.same name).map
      (·.2) = (held? order name).bind Held.place? := by
  rw [stubMembers_find?, held?_eq_find?]
  cases (order.flatMap fun c => c.own.entries).find? fun e => e.1.same name <;> rfl

theorem bind_place?_eq_some_iff {y : Option Held} {place : Nat} :
    y.bind Held.place? = some place ↔ y = some (.member place) := by
  cases y with
  | none => exact iff_of_false nofun nofun
  | some y => cases y <;> simp [Held.place?]

theorem memberOf?_eq (r : Registry) (name : Name) :
    r.memberOf? order name =
      ((held? order name).bind Held.place?).bind fun place => r.members[place]? := by
  rw [memberOf?, stubMembers_held?]

theorem exists_mem_iff_find? {found : List (Name × Nat)}
    (h : found.Pairwise fun e f => e.1.same f.1 = false) (name : Name) (place : Nat) :
    (∃ n, n.same name = true ∧ (n, place) ∈ found) ↔
      (found.find? fun e => e.1.same name).map (·.2) = some place := by
  induction found with
  | nil => simp
  | cons e found ih =>
      obtain ⟨hfirst, hrest⟩ := List.pairwise_cons.1 h
      rw [List.find?_cons]
      cases hsame : e.1.same name with
      | true =>
          -- no later entry has the name, since the first one has it
          constructor
          · rintro ⟨n, hn, hmem⟩
            rcases List.mem_cons.1 hmem with rfl | hmem
            · rfl
            · have hne := hfirst _ hmem
              rw [Bool.eq_false_iff, ne_eq, Name.same_iff, (Name.same_iff _ _).1 hn] at hne
              exact absurd ((Name.same_iff _ _).1 hsame) hne
          · intro hplace
            obtain rfl : e.2 = place := Option.some.inj hplace
            exact ⟨e.1, hsame, List.mem_cons_self⟩
      | false =>
          rw [← ih hrest]
          constructor
          · rintro ⟨n, hn, hmem⟩
            rcases List.mem_cons.1 hmem with rfl | hmem
            · exact absurd hn (Bool.eq_false_iff.1 hsame)
            · exact ⟨n, hn, hmem⟩
          · rintro ⟨n, hn, hmem⟩
            exact ⟨n, hn, List.mem_cons_of_mem _ hmem⟩

/-! ## What attributes are taken of -/

/-- What a class holds is what stands there for those who take attributes: the member at its place,
or something that is no member. -/
def Shows (r : Registry) : Held → Standing → Prop
  | .member place, .member x => r.members[place]? = some x
  | .note _, .thing _ => True
  | _, _ => False

/-- Attributes are taken of a class as it is: it holds the same under each name, and one can look
without asking. -/
structure IsSeenAs (r : Registry) (c : BuiltClass) (h : Holder) : Prop where
  shows : ∀ name, Option.Rel r.Shows (c.own.held? name) (Holder.held? [h] name)
  isOpen : h.isOpen = true

theorem isSeenAs_of_entries {r : Registry} {c : BuiltClass} {entries : List (Name × Standing)}
    (h : List.Forall₂ (fun e f => e.1 = f.1 ∧ r.Shows e.2 f.2) c.own.entries entries) :
    r.IsSeenAs c ⟨entries, true⟩ := by
  refine ⟨fun name => ?_, rfl⟩
  obtain ⟨title, path, ⟨own⟩⟩ := c
  replace h : List.Forall₂ _ own entries := h
  show Option.Rel r.Shows ((own.find? fun e => e.1.same name).map (·.2)) (Holder.held? _ name)
  rw [Holder.held?, List.findSome?_singleton]
  induction h with
  | nil => exact .none
  | cons hentry _ ih =>
      obtain ⟨hname, hshows⟩ := hentry
      rw [List.find?_cons, List.find?_cons, hname]
      split
      · exact .some hshows
      · exact ih

variable {r : Registry} {order} {holders : List Holder}

theorem held?_shows (h : List.Forall₂ r.IsSeenAs order holders) (name : Name) :
    Option.Rel r.Shows (held? order name) (Holder.held? holders name) := by
  induction h with
  | nil => exact .none
  | @cons c holder order holders hc _ ih =>
      have hfirst := hc.shows name
      rw [Holder.held?, List.findSome?_singleton] at hfirst
      rw [held?, Holder.held?, List.findSome?_cons, List.findSome?_cons]
      generalize c.own.held? name = x at hfirst
      generalize (holder.entries.find? fun e => e.1.same name).map (·.2) = y at hfirst
      cases hfirst with
      | some hshows => exact .some hshows
      | none => exact ih

theorem isOpen_of_isSeenAs (h : List.Forall₂ r.IsSeenAs order holders) :
    ∀ k ∈ holders, k.isOpen = true := by
  induction h with
  | nil => exact nofun
  | cons hc _ ih => exact List.forall_mem_cons.2 ⟨hc.isOpen, ih⟩

end Registry

namespace Subject

variable {s : Subject} {name : Name}

/-- Where a subject keeps nothing itself, what its classes hold is found, and for a class what its
own class holds after that. -/
theorem found?_eq (hopen : ∀ h ∈ s.order, h.isOpen = true)
    (hown : s.isClass = false → s.own? name = none) :
    s.found? name = (Holder.held? s.order name).or
      (if s.isClass then Holder.heldOpenly? s.kind name else none) := by
  rw [found?, heldOpenly?_eq hopen]
  cases hclass : s.isClass with
  | true => rfl
  | false =>
      have hnone : (if s.isShadowed then none else s.own? name) = none := by
        rw [hown hclass, ite_self]
      rw [hnone]
      show (preferred? _ none (Holder.held? s.order name)).map _ = _
      cases Holder.held? s.order name with
      | none => rfl
      | some y =>
          rw [preferred?_held]
          rfl

end Subject

namespace Registry

variable (r : Registry)

/-- Where nothing comes before what the classes of a subject hold, nor in its place, finding and
calls from inside come to the same member. -/
theorem member?_eq {order : List BuiltClass} {s : Subject} {name : Name}
    (horder : List.Forall₂ r.IsSeenAs order s.order)
    (hown : s.isClass = false → s.own? name = none)
    (hkind : s.isClass = true → ∀ x, Holder.heldOpenly? s.kind name = some (.member x) →
      (held? order name).isSome = true) :
    s.member? name = r.memberOf? order name := by
  have hshows := held?_shows horder name
  rw [memberOf?_eq, Subject.member?, Subject.found?_eq (isOpen_of_isSeenAs horder) hown]
  generalize held? order name = y at hshows hkind
  generalize Holder.held? s.order name = z at hshows
  cases hshows with
  | none =>
      -- nothing is held along the order, so only the class of a class could hold a member
      cases hclass : s.isClass with
      | false => rfl
      | true =>
          cases hheld : Holder.heldOpenly? s.kind name with
          | none => rfl
          | some w =>
              cases w with
              | thing x => rfl
              | member x => cases hkind hclass x hheld
  | @some y z hyz =>
      cases y with
      | note v =>
          cases z with
          | thing x => rfl
          | member x => exact hyz.elim
      | member place =>
          cases z with
          | thing x => exact hyz.elim
          | member x => exact hyz.symm

/-- **What is found by name is what a call from inside comes to.** Finding along the order of a
class collects no name twice, and it collects a name exactly when the first class that holds
anything under it holds a generated member there: that one. So for the class itself, and for an
object of it that keeps nothing of that name, a visibility is told exactly when a call from inside
comes to a generated member. It is the visibility that this member enforces, and the member answers
the call or refuses it for its level. Otherwise there is an error about the missing attribute, and a
call from inside takes an attribute like everyone does. A member that the class of a class holds is
left aside where nothing along the order hides it: a call from inside comes to it, but finding does
not. -/
theorem visibilityOf_eq_found (k : BuiltClass) (above : List BuiltClass) (name : Name) :
    let order := k :: above
    (∃ found, (finding order).collect.run [] = ((), found) ∧
        (found.Pairwise fun e f => e.1.same f.1 = false) ∧
        ∀ place, (∃ n, n.same name = true ∧ (n, place) ∈ found) ↔
          held? order name = some (.member place)) ∧
      ∀ s : Subject, List.Forall₂ r.IsSeenAs order s.order →
        (s.isClass = false → s.own? name = none) →
        (s.isClass = true → ∀ x, Holder.heldOpenly? s.kind name = some (.member x) →
          (held? order name).isSome = true) →
        ((∃ v, r.visibilityOf order name = .ok v) ↔ ∃ x, s.member? name = some x) ∧
        (∀ v, r.visibilityOf order name = .ok v → ∃ x place, s.member? name = some x ∧
          held? order name = some (.member place) ∧ r.members[place]? = some x ∧
          x.definition.visibility = v ∧ x.Enforces v ∧
          ∀ a, s.send name a = if x.bindsToClass = s.passesForClass then x.answer s.look a
            else (s.sending name a).refuse x.bindsToClass) ∧
        (s.member? name = none →
          r.visibilityOf order name = .error (.ordinary .noAttribute
            (k.title.toValue.literal ++ " has no generated member " ++ name.toValue.literal)) ∧
          ∀ a, s.send name a = s.callAttribute name Subject.insideCode a) := by
  intro order
  refine ⟨⟨_, collect_run order, stubMembers_pairwise _ _, fun place => ?_⟩,
    fun s horder hown hkind => ?_⟩
  · rw [exists_mem_iff_find? (stubMembers_pairwise _ _), stubMembers_held?, bind_place?_eq_some_iff]
  · have hmember := r.member?_eq horder hown hkind
    have hnone : s.member? name = none →
        r.visibilityOf order name = .error (.ordinary .noAttribute
          (k.title.toValue.literal ++ " has no generated member " ++ name.toValue.literal)) := by
      intro h
      rw [visibilityOf, ← hmember, h]
      rfl
    have hsome : ∀ x, s.member? name = some x →
        r.visibilityOf order name = .ok x.definition.visibility := by
      intro x h
      rw [visibilityOf, ← hmember, h]
    refine ⟨⟨?_, ?_⟩, fun v hv => ?_, fun h => ⟨hnone h, Subject.send_of_none h⟩⟩
    · rintro ⟨v, hv⟩
      by_contra hno
      rw [hnone (Option.eq_none_iff_forall_ne_some.2 fun x hx => hno ⟨x, hx⟩)] at hv
      cases hv
    · rintro ⟨x, hx⟩
      exact ⟨_, hsome x hx⟩
    · cases hx : s.member? name with
      | none => rw [hnone hx] at hv; cases hv
      | some x =>
          obtain rfl : x.definition.visibility = v := by
            simpa [hsome x hx] using hv
          rw [hx, memberOf?_eq] at hmember
          obtain ⟨place, hplace, hthere⟩ := Option.bind_eq_some_iff.1 hmember.symm
          refine ⟨x, place, rfl, bind_place?_eq_some_iff.1 hplace, hthere, rfl, x.enforces,
            fun a => ?_⟩
          rw [Subject.send_of_some hx]
          simp only [bne_iff_ne, ne_eq, ite_not]

/-- Classes along an order. The member `a` of the last one is hidden by something else, and that by
another member; the member `b` is hidden by something else. -/
def layered : List BuiltClass :=
  [⟨.ofText "Low", .ofText "Low", ⟨[(.ofText "a", .member 1), (.ofText "b", .note .null)]⟩⟩,
    ⟨.ofText "Mid", .ofText "Mid", ⟨[(.ofText "a", .note .null)]⟩⟩,
    ⟨.ofText "Base", .ofText "Base", ⟨[(.ofText "a", .member 0), (.ofText "b", .member 0)]⟩⟩]

/-- Something that is no member. -/
def plainThing : Thing :=
  ⟨false, fun _ _ => throw .emptyChoice, fun _ _ => throw .emptyChoice⟩

/-- The first of these classes, or an object of it. The class of the class holds a member too. -/
def layeredSubject (isClass : Bool) (x y : Member) : Subject :=
  { Subject.guardedObject [] [] with
    isClass := isClass
    order :=
      [⟨[(.ofText "a", .member y), (.ofText "b", .thing plainThing)], true⟩,
        ⟨[(.ofText "a", .thing plainThing)], true⟩,
        ⟨[(.ofText "a", .member x), (.ofText "b", .member x)], true⟩]
    kind := [⟨[(.ofText "a", .member x)], true⟩] }

/-- The member `a` of the first class is told and answers calls on an object, whatever is behind it.
The member `b` is missing, and a call from inside of the class takes the attribute instead. -/
theorem visibilityOf_eq_found_layered :
    let dx : MethodDefinition := ⟨.str "a", .publicMember, [], .int 1, false⟩
    let dy : MethodDefinition := ⟨.str "a", .privateMember, [], .int 2, false⟩
    ∃ x y, Member.create .standard dx = .ok x ∧ Member.create .standard dy = .ok y ∧
      let r : Registry := ⟨[x, y], layered⟩
      r.visibilityOf layered (.ofText "a") = .ok .privateMember ∧ y.Enforces .privateMember ∧
        (∀ a, (layeredSubject false x y).send (.ofText "a") a = y.answer .plain a) ∧
        r.visibilityOf layered (.ofText "b") =
          .error (.ordinary .noAttribute "'Low' has no generated member 'b'") ∧
        ∀ a, (layeredSubject true x y).send (.ofText "b") a =
          (layeredSubject true x y).callAttribute (.ofText "b") Subject.insideCode a := by
  intro dx dy
  obtain ⟨x, hx⟩ : ∃ x, Member.create .standard dx = .ok x := ⟨_, rfl⟩
  obtain ⟨y, hy⟩ : ∃ y, Member.create .standard dy = .ok y := ⟨_, rfl⟩
  obtain ⟨hdefinition, -, hbinds, -⟩ := Member.create_eq_ok hy
  refine ⟨x, y, hx, hy, ?_⟩
  intro r
  have horder (isClass : Bool) :
      List.Forall₂ r.IsSeenAs layered (layeredSubject isClass x y).order :=
    .cons (isSeenAs_of_entries (.cons ⟨rfl, rfl⟩ (.cons ⟨rfl, trivial⟩ .nil)))
      (.cons (isSeenAs_of_entries (.cons ⟨rfl, trivial⟩ .nil))
        (.cons (isSeenAs_of_entries (.cons ⟨rfl, rfl⟩ (.cons ⟨rfl, rfl⟩ .nil))) .nil))
  obtain ⟨-, hfound⟩ := visibilityOf_eq_found r _ _ (.ofText "a")
  obtain ⟨hiff, hok, -⟩ := hfound (layeredSubject false x y) (horder false) (fun _ => rfl) nofun
  obtain ⟨v, hv⟩ := hiff.2 ⟨y, rfl⟩
  obtain ⟨z, place, hz, -, -, rfl, henforces, hsend⟩ := hok v hv
  obtain rfl : y = z := Option.some.inj hz
  obtain ⟨-, hmissing⟩ := visibilityOf_eq_found r _ _ (.ofText "b")
  obtain ⟨-, -, hnone⟩ := hmissing (layeredSubject true x y) (horder true) nofun
    (fun _ _ h => by cases h)
  obtain ⟨herror, hsent⟩ := hnone rfl
  have hprivate : y.definition.visibility = .privateMember := by rw [hdefinition]
  have htext : (Name.ofText "Low").toValue.literal ++ " has no generated member "
      ++ (Name.ofText "b").toValue.literal = "'Low' has no generated member 'b'" := by
    decide +kernel
  rw [hprivate] at hv henforces
  refine ⟨hv, henforces, fun a => ?_, htext ▸ herror, hsent⟩
  rw [hsend, hbinds]
  rfl

/-- A member that the class of a class holds is not found on the class, but a call from inside comes
to it. -/
theorem visibilityOf_metaclass :
    ¬ ∀ (r : Registry) (k : BuiltClass) (above : List BuiltClass) (name : Name) (s : Subject),
      List.Forall₂ r.IsSeenAs (k :: above) s.order → (s.isClass = false → s.own? name = none) →
        ((∃ v, r.visibilityOf (k :: above) name = .ok v) ↔ ∃ x, s.member? name = some x) := by
  intro h
  obtain ⟨x, -⟩ : ∃ x, Member.create .standard ⟨.str "c", .publicClass, [], .null, false⟩ = .ok x :=
    ⟨_, rfl⟩
  let s : Subject :=
    { Subject.guardedObject [] [] with
      isClass := true
      order := [⟨[], true⟩]
      kind := [⟨[(.ofText "c", .member x)], true⟩] }
  obtain ⟨v, hv⟩ := (h ⟨[x], []⟩ ⟨.ofText "K", .ofText "K", ⟨[]⟩⟩ [] (.ofText "c") s
    (.cons (isSeenAs_of_entries .nil) .nil) nofun).2 ⟨x, rfl⟩
  cases hv

end Registry

end StubClass
