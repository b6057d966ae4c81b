import Mathlib.Data.List.Forall2
import StubClass.Method.Look
import StubClass.Proofs.Generator.Frozen
import StubClass.Proofs.Signature.Forming
import StubClass.Proofs.Value.Text

set_option autoImplicit false

/-! # Written parameters show what they are

The parameters of a member are written in two ways, as they were declared and as a signature. Either
text shows the kinds, the names and the applied defaults, and nothing else (`written_eq_iff`). In
the declared form the kind stands between the name and the default, in the signature it is told from
the default and from the side of the star. Both ways a name ends with the first character that no
identifier has, and a default by itself (`Value.chars_tellsApart`). -/

namespace StubClass

open Text Value

/-! ## Names -/

/-- Whether a character may stand in an identifier. -/
def isNameChar (c : Char) : Bool :=
  identifierStart.contains c || identifierContinue.contains c

/-- The characters of an identifier. -/
theorem isNameChar_of_mem {text : String} (h : Text.isIdentifier text = true) :
    text.toList ≠ [] ∧ ∀ c ∈ text.toList, isNameChar c = true := by
  have hshape := ((isIdentifier_iff text).1 h).1
  cases htext : text.toList with
  | nil =>
      rw [htext] at hshape
      cases hshape
  | cons c cs =>
      rw [htext, isIdentifierShape, Bool.and_eq_true, List.all_eq_true] at hshape
      refine ⟨List.cons_ne_nil c cs, fun d hd => ?_⟩
      rcases List.mem_cons.1 hd with rfl | hd
      · rw [isNameChar, hshape.1, Bool.true_or]
      · exact hshape.2 d hd

/-- The characters that stand behind names and around parts are in no identifier. -/
theorem isNameChar_marks :
    ∀ c ∈ [' ', ')', '*', ',', ':', '='], isNameChar c = false := by
  have hall : ([' ', ')', '*', ',', ':', '='].all fun c => !isNameChar c) = true := by
    decide +kernel
  simpa using hall

/-- What is behind a name starts with a character that is in no identifier. -/
def EndsName (r : List Char) : Prop :=
  ∀ c ∈ r.head?, isNameChar c = false

theorem endsName_cons {c : Char} (h : c ∈ [' ', ')', '*', ',', ':', '=']) (r : List Char) :
    EndsName (c :: r) := by
  rintro _ ⟨⟩
  exact isNameChar_marks c h

theorem name_tellsApart {text other : String} (h : Text.isIdentifier text = true)
    (hother : Text.isIdentifier other = true) : TellsApart String.toList EndsName text other := by
  intro r s hr hs heq
  obtain ⟨hsame, hrest⟩ :=
    append_inj_of_all (isNameChar_of_mem h).2 (isNameChar_of_mem hother).2 hr hs heq
  exact ⟨String.toList_inj.1 hsame, hrest⟩

theorem name_startsOtherwise {text : String} (h : Text.isIdentifier text = true) {c : Char}
    (hc : c ∈ [' ', ')', '*', ',', ':', '=']) : StartsOtherwise String.toList c text := by
  intro r s heq
  obtain ⟨hne, hall⟩ := isNameChar_of_mem h
  obtain ⟨d, ds, htext⟩ := List.exists_cons_of_ne_nil hne
  have hd := hall d (htext ▸ List.mem_cons_self)
  rw [htext] at heq
  rw [(List.cons.inj heq).1, isNameChar_marks c hc] at hd
  cases hd

/-! ## What is shown of a parameter -/

/-- Whether two parameters are shown alike: they have one kind, one text as name and, if it is
applied, one default. -/
structure Parameter.ShownAlike (p q : Parameter) : Prop where
  kind : p.kind = q.kind
  name : p.name.text = q.name.text
  default : p.kind.hasDefault = true → p.default = q.default

/-- The kind of a parameter, with the default where one is applied. -/
inductive ShownKind where
  | required
  | optional (default : Value)
  | keywordRequired
  | keyword (default : Value)

namespace ShownKind

/-- The kind alone. -/
def kind : ShownKind → ParameterKind
  | required => .required
  | optional _ => .optional
  | keywordRequired => .keywordRequired
  | keyword _ => .keyword

/-- The default, if one is applied. -/
def default? : ShownKind → Option Value
  | required | keywordRequired => none
  | optional v | keyword v => some v

/-- What stands behind the name in a declaration. -/
def declared : ShownKind → List Char
  | required => []
  | optional v => ' ' :: '=' :: ' ' :: v.chars
  | keywordRequired => [':']
  | keyword v => ':' :: ' ' :: v.chars

/-- The default and the side of the star make up the kind. -/
theorem eq_of_default? {k l : ShownKind} (hside : k.kind.isKeyword = l.kind.isKeyword)
    (hdefault : k.default? = l.default?) : k = l := by
  cases k <;> cases l <;> simp_all [kind, default?, ParameterKind.isKeyword]

end ShownKind

namespace Parameter

/-- The kind of a parameter as it is shown. -/
def shownKind (p : Parameter) : ShownKind :=
  match p.kind with
  | .required => .required
  | .optional => .optional p.default
  | .keywordRequired => .keywordRequired
  | .keyword => .keyword p.default

/-- The text of the name of a parameter and its kind, as they are shown. -/
def shown (p : Parameter) : String × ShownKind :=
  (p.name.text, p.shownKind)

@[simp] theorem kind_shownKind (p : Parameter) : p.shownKind.kind = p.kind := by
  unfold shownKind
  split <;> next hkind => exact hkind.symm

theorem default?_shownKind (p : Parameter) :
    p.shownKind.default? = if p.kind.hasDefault then some p.default else none := by
  unfold shownKind
  split <;> next hkind => rw [hkind]; rfl

theorem shown_eq_iff (p q : Parameter) : p.shown = q.shown ↔ p.ShownAlike q := by
  obtain ⟨kind, name, default⟩ := p
  obtain ⟨kind', name', default'⟩ := q
  constructor
  · intro h
    obtain ⟨hname, hkind⟩ := Prod.mk.inj h
    refine ⟨?_, hname, ?_⟩ <;> cases kind <;> cases kind' <;>
      simp_all [shownKind, ParameterKind.hasDefault]
  · rintro ⟨rfl, hname, hdefault⟩
    refine Prod.ext hname ?_
    cases kind <;> simp_all [shown, shownKind, ParameterKind.hasDefault]

theorem map_shown_eq_iff (ps qs : List Parameter) :
    ps.map shown = qs.map shown ↔ List.Forall₂ ShownAlike ps qs := by
  rw [← List.forall₂_eq_eq_eq, List.forall₂_map_left_iff, List.forall₂_map_right_iff]
  simp only [shown_eq_iff]

end Parameter

/-- What is shown of a parameter whose default, if it is applied, is a literal. -/
def ShowsLiteral (x : String × ShownKind) : Prop :=
  Text.isIdentifier x.1 = true ∧ ∀ v ∈ x.2.default?, IsLiteral v

theorem Parameter.showsLiteral {p : Parameter}
    (h : p.kind.hasDefault = true → IsLiteral p.default) : ShowsLiteral p.shown := by
  refine ⟨p.name.valid, fun v hv => ?_⟩
  rw [shown, default?_shownKind] at hv
  split at hv
  · next hkind =>
      obtain rfl := Option.some.inj hv
      exact h hkind
  · cases hv

/-! ## Parts of a text -/

/-- What is behind a part of the text: a comma or the closing parenthesis. -/
def EndsPart (r : List Char) : Prop :=
  ∃ c cs, r = c :: cs ∧ (c = ',' ∨ c = ')')

theorem endsPart_comma (r : List Char) : EndsPart (',' :: r) :=
  ⟨',', r, rfl, .inl rfl⟩

theorem endsPart_close (r : List Char) : EndsPart (')' :: r) :=
  ⟨')', r, rfl, .inr rfl⟩

theorem EndsPart.endsName {r : List Char} (h : EndsPart r) : EndsName r := by
  obtain ⟨c, cs, rfl, rfl | rfl⟩ := h <;> exact endsName_cons (by decide) cs

theorem EndsPart.noDigit {r : List Char} (h : EndsPart r) : NoDigit r := by
  obtain ⟨c, cs, rfl, rfl | rfl⟩ := h <;> exact noDigit_cons (by decide) cs

theorem EndsPart.ne_cons {r : List Char} (h : EndsPart r) {c : Char} (hc : c ≠ ',' ∧ c ≠ ')')
    (cs : List Char) : r ≠ c :: cs := by
  obtain ⟨d, ds, rfl, hd⟩ := h
  intro heq
  obtain rfl := (List.cons.inj heq).1
  exact hd.elim hc.1 hc.2

/-- Literals are told apart as parts of a text. -/
theorem literal_tellsApart {v w : Value} (hv : IsLiteral v) (hw : IsLiteral w) :
    TellsApart chars EndsPart v w :=
  (chars_tellsApart hv hw).mono fun _ h => h.noDigit

/-- A text in parentheses shows its parts if they are told apart and none starts with the closing
parenthesis. -/
theorem parenthesized_inj {α : Type} {write : α → List Char} {xs ys : List α}
    (happart : ∀ x ∈ xs, ∀ y ∈ ys, TellsApart write EndsPart x y)
    (hx : ∀ x ∈ xs, StartsOtherwise write ')' x) (hy : ∀ y ∈ ys, StartsOtherwise write ')' y)
    (h : '(' :: (commaSeparated (xs.map write) ++ [')'])
      = '(' :: (commaSeparated (ys.map write) ++ [')'])) : xs = ys :=
  (commaSeparated_tellsApart endsPart_comma endsPart_close (by decide) happart hx hy
    (List.cons.inj h).2).1

/-! ## Declarations -/

/-- A parameter as it is declared. -/
def declaredChars (x : String × ShownKind) : List Char :=
  x.1.toList ++ x.2.declared

theorem Parameter.declarationChars_eq (p : Parameter) :
    p.declarationChars = declaredChars p.shown := by
  unfold declarationChars declaredChars shown shownKind
  cases p.kind with
  | required => exact (List.append_nil _).symm
  | optional => exact List.append_assoc _ _ _
  | keywordRequired => rfl
  | keyword => exact List.append_assoc _ _ _

/-- The kind that the characters behind a name show. -/
def kindBehind : List Char → ParameterKind
  | ' ' :: _ => .optional
  | ':' :: ' ' :: _ => .keyword
  | ':' :: _ => .keywordRequired
  | _ => .required

theorem kindBehind_declared (k : ShownKind) {r : List Char} (hr : EndsPart r) :
    kindBehind (k.declared ++ r) = k.kind := by
  obtain ⟨c, cs, rfl, rfl | rfl⟩ := hr <;> cases k <;> rfl

theorem declared_endsName (k : ShownKind) {r : List Char} (hr : EndsPart r) :
    EndsName (k.declared ++ r) := by
  cases k with
  | required => exact hr.endsName
  | _ => exact endsName_cons (by decide) _

theorem declared_tellsApart {k l : ShownKind} (hk : ∀ v ∈ k.default?, IsLiteral v)
    (hl : ∀ v ∈ l.default?, IsLiteral v) : TellsApart ShownKind.declared EndsPart k l := by
  intro r s hr hs h
  -- the kind is told first, so that only two of one kind have to be compared
  have hkind : k.kind = l.kind := by
    rw [← kindBehind_declared k hr, h, kindBehind_declared l hs]
  cases k with
  | required =>
      cases l with
      | required => exact ⟨rfl, h⟩
      | _ => cases hkind
  | optional v =>
      cases l with
      | optional w =>
          obtain ⟨-, h⟩ := List.cons.inj h
          obtain ⟨-, h⟩ := List.cons.inj h
          obtain ⟨-, h⟩ := List.cons.inj h
          obtain ⟨rfl, hrest⟩ := literal_tellsApart (hk v rfl) (hl w rfl) r s hr hs h
          exact ⟨rfl, hrest⟩
      | _ => cases hkind
  | keywordRequired =>
      cases l with
      | keywordRequired => exact ⟨rfl, (List.cons.inj h).2⟩
      | _ => cases hkind
  | keyword v =>
      cases l with
      | keyword w =>
          obtain ⟨-, h⟩ := List.cons.inj h
          obtain ⟨-, h⟩ := List.cons.inj h
          obtain ⟨rfl, hrest⟩ := literal_tellsApart (hk v rfl) (hl w rfl) r s hr hs h
          exact ⟨rfl, hrest⟩
      | _ => cases hkind

theorem declaredChars_tellsApart {x y : String × ShownKind} (hx : ShowsLiteral x)
    (hy : ShowsLiteral y) : TellsApart declaredChars EndsPart x y := by
  intro r s hr hs h
  rw [declaredChars, declaredChars, List.append_assoc, List.append_assoc] at h
  obtain ⟨hname, hbehind⟩ := name_tellsApart hx.1 hy.1 _ _ (declared_endsName _ hr)
    (declared_endsName _ hs) h
  obtain ⟨hkind, hrest⟩ := declared_tellsApart hx.2 hy.2 r s hr hs hbehind
  exact ⟨Prod.ext hname hkind, hrest⟩

theorem declaredChars_startsOtherwise {x : String × ShownKind} (hx : ShowsLiteral x) :
    StartsOtherwise declaredChars ')' x := by
  intro r s h
  rw [declaredChars, List.append_assoc] at h
  exact name_startsOtherwise hx.1 (by decide) _ _ h

/-! ## Signatures -/

/-- A default behind the name of a slot. -/
def defaultChars : Option Value → List Char
  | none => []
  | some v => '=' :: v.chars

theorem defaultChars_endsName (default : Option Value) {r : List Char} (hr : EndsPart r) :
    EndsName (defaultChars default ++ r) := by
  cases default with
  | none => exact hr.endsName
  | some v => exact endsName_cons (by decide) _

theorem defaultChars_tellsApart {default other : Option Value} (h : ∀ v ∈ default, IsLiteral v)
    (hother : ∀ v ∈ other, IsLiteral v) : TellsApart defaultChars EndsPart default other := by
  intro r s hr hs heq
  cases default with
  | none =>
      cases other with
      | none => exact ⟨rfl, heq⟩
      | some w => exact absurd heq (hr.ne_cons (by decide) _)
  | some v =>
      cases other with
      | none => exact absurd heq.symm (hs.ne_cons (by decide) _)
      | some w =>
          obtain ⟨rfl, hrest⟩ :=
            literal_tellsApart (h v rfl) (hother w rfl) r s hr hs (List.cons.inj heq).2
          exact ⟨rfl, hrest⟩

/-- A part of a written signature: a slot, or the star before the slots that go by keyword. -/
inductive SignaturePart where
  | slot (name : String) (default : Option Value)
  | star

namespace SignaturePart

/-- The part as it is written. -/
def chars : SignaturePart → List Char
  | slot name default => name.toList ++ defaultChars default
  | star => ['*']

/-- Whether a slot has an identifier and a literal, if it has a default. -/
def ShowsLiteral : SignaturePart → Prop
  | slot name default => Text.isIdentifier name = true ∧ ∀ v ∈ default, IsLiteral v
  | star => True

theorem slot_startsOtherwise {name : String} {default : Option Value}
    (h : Text.isIdentifier name = true) {c : Char} (hc : c ∈ [' ', ')', '*', ',', ':', '=']) :
    StartsOtherwise chars c (slot name default) := by
  intro r s heq
  rw [chars, List.append_assoc] at heq
  exact name_startsOtherwise h hc _ _ heq

theorem startsOtherwise {x : SignaturePart} (hx : x.ShowsLiteral) :
    StartsOtherwise chars ')' x := by
  cases x with
  | slot name default => exact slot_startsOtherwise hx.1 (by decide)
  | star => exact fun r s h => absurd (List.cons.inj h).1 (by decide)

theorem chars_tellsApart {x y : SignaturePart} (hx : x.ShowsLiteral) (hy : y.ShowsLiteral) :
    TellsApart chars EndsPart x y := by
  intro r s hr hs h
  cases x with
  | slot name default =>
      cases y with
      | slot other otherDefault =>
          rw [chars, chars, List.append_assoc, List.append_assoc] at h
          obtain ⟨rfl, hbehind⟩ := name_tellsApart hx.1 hy.1 _ _ (defaultChars_endsName _ hr)
            (defaultChars_endsName _ hs) h
          obtain ⟨rfl, hrest⟩ := defaultChars_tellsApart hx.2 hy.2 r s hr hs hbehind
          exact ⟨rfl, hrest⟩
      | star => exact absurd h (slot_startsOtherwise hx.1 (by decide) _ _)
  | star =>
      cases y with
      | slot other otherDefault => exact absurd h.symm (slot_startsOtherwise hy.1 (by decide) _ _)
      | star => exact ⟨rfl, (List.cons.inj h).2⟩

end SignaturePart

/-- Parts with the star in front, if there are any. -/
def starred : List SignaturePart → List SignaturePart
  | [] => []
  | x :: xs => .star :: x :: xs

/-- The slot of what is shown of a parameter. -/
def shownSlot (x : String × ShownKind) : SignaturePart :=
  .slot x.1 x.2.default?

/-- The parts of the signature of parameters. -/
def signatureParts (xs : List (String × ShownKind)) : List SignaturePart :=
  (xs.filter fun x => !x.2.kind.isKeyword).map shownSlot
    ++ starred ((xs.filter fun x => x.2.kind.isKeyword).map shownSlot)

/-- The slots before the star and those behind it are told apart. -/
theorem append_starred_inj {as bs cs ds : List (String × ShownKind)}
    (h : as.map shownSlot ++ starred (bs.map shownSlot)
      = cs.map shownSlot ++ starred (ds.map shownSlot)) :
    as.map shownSlot = cs.map shownSlot ∧ bs.map shownSlot = ds.map shownSlot := by
  induction as generalizing cs with
  | nil =>
      cases cs with
      | nil =>
          -- on both sides only the star can come next, and no slot is the star
          refine ⟨rfl, ?_⟩
          cases bs with
          | nil =>
              cases ds with
              | nil => rfl
              | cons d ds => cases h
          | cons b bs =>
              cases ds with
              | nil => cases h
              | cons d ds => exact (List.cons.inj h).2
      | cons c cs =>
          cases bs with
          | nil => cases h
          | cons b bs => cases (List.cons.inj h).1
  | cons a as ih =>
      cases cs with
      | nil =>
          cases ds with
          | nil => cases h
          | cons d ds => cases (List.cons.inj h).1
      | cons c cs =>
          obtain ⟨hslot, hrest⟩ := List.cons.inj h
          obtain ⟨hfirst, hsecond⟩ := ih hrest
          exact ⟨by rw [List.map_cons, List.map_cons, hslot, hfirst], hsecond⟩

/-- On one side of the star, slots show what parameters show. -/
theorem shown_inj_of_side (keyword : Bool) {xs ys : List (String × ShownKind)}
    (hx : ∀ x ∈ xs, x.2.kind.isKeyword = keyword) (hy : ∀ y ∈ ys, y.2.kind.isKeyword = keyword)
    (h : xs.map shownSlot = ys.map shownSlot) : xs = ys := by
  induction xs generalizing ys with
  | nil => exact (List.map_eq_nil_iff.1 h.symm).symm
  | cons x xs ih =>
      cases ys with
      | nil => cases h
      | cons y ys =>
          obtain ⟨hslot, hrest⟩ := List.cons.inj h
          obtain ⟨hname, hdefault⟩ := SignaturePart.slot.inj hslot
          have hside := (hx x List.mem_cons_self).trans (hy y List.mem_cons_self).symm
          rw [Prod.ext hname (ShownKind.eq_of_default? hside hdefault),
            ih (fun a ha => hx a (List.mem_cons_of_mem x ha))
              (fun b hb => hy b (List.mem_cons_of_mem y hb)) hrest]

/-- In the order of a call, the parameters by keyword are the last ones. -/
theorem InCallOrder.filter_append {ps : List Parameter} (h : InCallOrder ps) :
    (ps.map Parameter.shown).filter (fun x => !x.2.kind.isKeyword)
        ++ (ps.map Parameter.shown).filter (fun x => x.2.kind.isKeyword)
      = ps.map Parameter.shown := by
  induction ps with
  | nil => rfl
  | cons p ps ih =>
      cases hp : p.kind.isKeyword with
      | false =>
          have hshown : p.shown.2.kind.isKeyword = false := by
            rw [Parameter.shown, Parameter.kind_shownKind, hp]
          simp [hshown, ih h.tail]
      | true =>
          -- behind the first parameter by keyword there are no others, so one filter is empty
          have hall := h.countP_eq_zero hp
          rw [List.countP_eq_zero] at hall
          have hkeyword : ∀ x ∈ (p :: ps).map Parameter.shown, x.2.kind.isKeyword = true := by
            intro x hx
            obtain ⟨q, hq, rfl⟩ := List.mem_map.1 hx
            rw [Parameter.shown, Parameter.kind_shownKind]
            simpa using hall q hq
          rw [List.filter_eq_self.2 hkeyword, List.filter_eq_nil_iff.2 (by simpa using hkeyword),
            List.nil_append]

/-- The parts of the signature show the parameters in the order of a call. -/
theorem signatureParts_inj {ps qs : List Parameter} (hps : InCallOrder ps) (hqs : InCallOrder qs)
    (h : signatureParts (ps.map Parameter.shown) = signatureParts (qs.map Parameter.shown)) :
    ps.map Parameter.shown = qs.map Parameter.shown := by
  obtain ⟨hfirst, hsecond⟩ := append_starred_inj h
  rw [← hps.filter_append, ← hqs.filter_append,
    shown_inj_of_side false (by simp) (by simp) hfirst,
    shown_inj_of_side true (by simp) (by simp) hsecond]

/-! ## Both texts -/

theorem Value.IsLiteral.isNoDefault {v : Value} (h : IsLiteral v) : v.isNoDefault = false := by
  cases h <;> rfl

/-- Whether all defaults of a definition that are applied are literals. -/
def MethodDefinition.HasLiterals (d : MethodDefinition) : Prop :=
  ∀ p ∈ d.parameters, p.kind.hasDefault = true → IsLiteral p.default

theorem Parameter.slot_passing (p : Parameter) :
    p.slot.passing = if p.kind.isKeyword then .keywordOnly else .positional :=
  rfl

/-- The slot of a parameter has the default that is shown. -/
theorem Parameter.slot_default {p : Parameter}
    (h : p.kind.hasDefault = true → IsLiteral p.default) :
    p.slot.default = p.shownKind.default? := by
  have hkind : p.effectiveKind.hasDefault = p.kind.hasDefault := by
    cases hdefault : p.kind.hasDefault with
    | true => rw [effectiveKind, (h hdefault).isNoDefault, if_neg Bool.false_ne_true, hdefault]
    | false =>
        unfold effectiveKind
        split
        · revert hdefault
          cases p.kind <;> decide
        · exact hdefault
  rw [default?_shownKind, slot, hkind]

theorem Parameter.slot_chars {p : Parameter}
    (h : p.kind.hasDefault = true → IsLiteral p.default) :
    p.slot.chars = (shownSlot p.shown).chars := by
  rw [Slot.chars, p.slot_default h]
  show _ = p.name.text.toList ++ defaultChars p.shownKind.default?
  cases p.shownKind.default? with
  | none => exact (List.append_nil _).symm
  | some v => rfl

theorem map_chars_starred (xs : List SignaturePart) :
    (starred xs).map SignaturePart.chars =
      if (xs.map SignaturePart.chars).isEmpty then []
      else ['*'] :: xs.map SignaturePart.chars := by
  cases xs <;> rfl

namespace MethodDefinition

variable {d e : MethodDefinition}

/-- The written signature has the parts that show the parameters. -/
theorem parts_eq (h : d.HasLiterals) :
    (⟨d.parameters.map Parameter.slot⟩ : Signature).parts =
      (signatureParts (d.parameters.map Parameter.shown)).map SignaturePart.chars := by
  have hslots (how : Passing) (keyword : Bool)
      (hside : ∀ p : Parameter, (p.slot.passing == how) = (p.kind.isKeyword == keyword)) :
      ((d.parameters.map Parameter.slot).filter fun slot => slot.passing == how).map Slot.chars =
        (((d.parameters.map Parameter.shown).filter fun x => x.2.kind.isKeyword == keyword).map
          shownSlot).map SignaturePart.chars := by
    rw [List.filter_map, List.filter_map, List.map_map, List.map_map, List.map_map]
    have hfilter : ((fun slot : Slot => slot.passing == how) ∘ Parameter.slot) =
        (fun x : String × ShownKind => x.2.kind.isKeyword == keyword) ∘ Parameter.shown := by
      funext p
      simpa [Parameter.shown] using hside p
    rw [hfilter]
    exact List.map_congr_left fun p hp => p.slot_chars (h p (List.mem_of_mem_filter hp))
  have honly : (d.parameters.map Parameter.slot).filter
      (fun slot => slot.passing == .positionalOnly) = [] := by
    refine List.filter_eq_nil_iff.2 (List.forall_mem_map.2 fun p _ => ?_)
    rw [p.slot_passing]
    cases p.kind.isKeyword <;> decide
  have hpositional := hslots .positional false fun p => by
    rw [p.slot_passing]
    cases p.kind.isKeyword <;> decide
  have hnamed := hslots .keywordOnly true fun p => by
    rw [p.slot_passing]
    cases p.kind.isKeyword <;> decide
  simp only [Signature.parts, Signature.passed, honly, hpositional, hnamed, signatureParts,
    List.map_append, map_chars_starred]
  simp

/-- The declared parameters are written one by one. -/
theorem declarationChars_eq (d : MethodDefinition) :
    d.declarationChars =
      '(' :: (commaSeparated ((d.parameters.map Parameter.shown).map declaredChars) ++ [')']) := by
  rw [declarationChars, List.map_map, List.map_congr_left fun p _ => p.declarationChars_eq]
  rfl

/-- What can be written is told from what is shown. -/
theorem isWritable_eq (d : MethodDefinition) :
    d.isWritable =
      (d.parameters.map Parameter.shown).all fun x => x.2.default?.all Value.isWritable := by
  rw [isWritable, List.all_map]
  congr 1
  funext p
  show p.isWritable = p.shownKind.default?.all Value.isWritable
  rw [p.default?_shownKind, Parameter.isWritable]
  cases p.kind.hasDefault <;> rfl

theorem signature_isWritable (h : d.HasLiterals) :
    (⟨d.parameters.map Parameter.slot⟩ : Signature).isWritable = d.isWritable := by
  rw [isWritable_eq, Signature.isWritable, List.all_map, List.all_map, Bool.eq_iff_iff,
    List.all_eq_true, List.all_eq_true]
  refine forall₂_congr fun p hp => ?_
  rw [Function.comp_apply, p.slot_default (h p hp)]
  rfl

/-- Parameters are shown alike when they have one text as declared. -/
theorem declaration_eq_iff (hd : d.HasLiterals) (he : e.HasLiterals) :
    d.declaration = e.declaration ↔
      d.parameters.map Parameter.shown = e.parameters.map Parameter.shown := by
  have hshown {f : MethodDefinition} (hf : f.HasLiterals) :
      ∀ x ∈ f.parameters.map Parameter.shown, ShowsLiteral x :=
    List.forall_mem_map.2 fun p hp => p.showsLiteral (hf p hp)
  rw [declaration, declaration, String.ofList_inj, declarationChars_eq, declarationChars_eq]
  refine ⟨fun h => ?_, fun h => by rw [h]⟩
  exact parenthesized_inj
    (fun x hx y hy => declaredChars_tellsApart (hshown hd x hx) (hshown he y hy))
    (fun x hx => declaredChars_startsOtherwise (hshown hd x hx))
    (fun y hy => declaredChars_startsOtherwise (hshown he y hy)) h

/-- The parts of a signature show literals. -/
theorem showsLiteral_of_mem_parts (h : d.HasLiterals) :
    ∀ x ∈ signatureParts (d.parameters.map Parameter.shown), x.ShowsLiteral := by
  have hslot (test : String × ShownKind → Bool) :
      ∀ x ∈ ((d.parameters.map Parameter.shown).filter test).map shownSlot, x.ShowsLiteral := by
    refine List.forall_mem_map.2 fun x hx => ?_
    obtain ⟨p, hp, rfl⟩ := List.mem_map.1 (List.mem_of_mem_filter hx)
    exact p.showsLiteral (h p hp)
  have hstarred (xs : List SignaturePart) (hxs : ∀ x ∈ xs, x.ShowsLiteral) :
      ∀ x ∈ starred xs, x.ShowsLiteral := by
    cases xs with
    | nil => exact hxs
    | cons x xs => exact List.forall_mem_cons.2 ⟨trivial, hxs⟩
  intro x hx
  rcases List.mem_append.1 hx with hx | hx
  · exact hslot _ x hx
  · exact hstarred _ (hslot _) x hx

/-- Parameters in the order of a call are shown alike when their signatures have one text. -/
theorem text_eq_iff (hd : d.HasLiterals) (he : e.HasLiterals) (hdorder : InCallOrder d.parameters)
    (heorder : InCallOrder e.parameters) :
    (⟨d.parameters.map Parameter.slot⟩ : Signature).text =
        (⟨e.parameters.map Parameter.slot⟩ : Signature).text ↔
      d.parameters.map Parameter.shown = e.parameters.map Parameter.shown := by
  rw [Signature.text, Signature.text, String.ofList_inj, Signature.chars, Signature.chars,
    parts_eq hd, parts_eq he]
  refine ⟨fun h => signatureParts_inj hdorder heorder ?_, fun h => by rw [h]⟩
  have hdparts := showsLiteral_of_mem_parts hd
  have heparts := showsLiteral_of_mem_parts he
  exact parenthesized_inj
    (fun x hx y hy => SignaturePart.chars_tellsApart (hdparts x hx) (heparts y hy))
    (fun x hx => SignaturePart.startsOtherwise (hdparts x hx))
    (fun y hy => SignaturePart.startsOtherwise (heparts y hy)) h

/-- Accepted parameters whose applied defaults are literals form a signature. -/
theorem IsFrozen.signature_eq (hd : d.IsFrozen) (h : d.HasLiterals) :
    d.signature = .ok ⟨d.parameters.map Parameter.slot⟩ := by
  obtain ⟨-, hwell⟩ := hd.wellFormed
  have hself : d.parameters.map Parameter.effective = d.parameters :=
    Parameter.map_effective_eq_self fun p hp hkind => (h p hp hkind).isNoDefault
  refine (d.signature_eq_ok_iff _).2 ⟨⟨?_, hwell.distinct⟩, rfl⟩
  rw [hself]
  exact hwell.inOrder

/-- **Written parameters show what they are.** Take parameters that builders accepted, with literals
for the defaults that are applied. If all of these can be written, so can the parameters, as they
were declared and as a signature. Either text is the same for others exactly when these are as many
and, one by one, are of the same kind, have the same text as name and, where it is applied, the same
default; of a default that is not applied nothing is seen. -/
theorem written_eq_iff (hd : d.IsFrozen) (he : e.IsFrozen) (hdliterals : d.HasLiterals)
    (heliterals : e.HasLiterals) :
    ((∃ text, d.written = .ok text) ↔
        ∀ p ∈ d.parameters, p.kind.hasDefault = true → p.default.isWritable = true) ∧
      (∀ text, d.written = .ok text →
        (e.written = .ok text ↔ List.Forall₂ Parameter.ShownAlike d.parameters e.parameters)) ∧
      ∃ s u, d.signature = .ok s ∧ e.signature = .ok u ∧
        ((∃ text, s.written = .ok text) ↔ ∃ text, d.written = .ok text) ∧
        ∀ text, s.written = .ok text →
          (u.written = .ok text ↔
            List.Forall₂ Parameter.ShownAlike d.parameters e.parameters) := by
  have hwritable : d.parameters.map Parameter.shown = e.parameters.map Parameter.shown →
      d.isWritable = e.isWritable := fun h => by rw [isWritable_eq, isWritable_eq, h]
  have hsignature (s : Signature) (text : String) :
      s.written = .ok text ↔ s.isWritable = true ∧ text = s.text := by
    unfold Signature.written
    split
    · next hs => simp [hs, eq_comm]
    · next hs => simp [hs]
  refine ⟨?_, fun text htext => ?_, _, _, hd.signature_eq hdliterals, he.signature_eq heliterals,
    ?_, fun text htext => ?_⟩
  · simp only [d.written_eq_ok_iff, exists_and_left, exists_eq, and_true]
    rw [isWritable, List.all_eq_true]
    refine forall₂_congr fun p _ => ?_
    rw [Parameter.isWritable]
    cases p.kind.hasDefault <;> simp
  · obtain ⟨hok, rfl⟩ := (d.written_eq_ok_iff text).1 htext
    rw [e.written_eq_ok_iff, declaration_eq_iff hdliterals heliterals,
      ← Parameter.map_shown_eq_iff]
    exact ⟨And.right, fun h => ⟨hwritable h ▸ hok, h⟩⟩
  · simp only [hsignature, d.written_eq_ok_iff, exists_and_left, exists_eq, and_true]
    rw [signature_isWritable hdliterals]
  · obtain ⟨hok, rfl⟩ := (hsignature _ text).1 htext
    rw [signature_isWritable hdliterals] at hok
    rw [hsignature, signature_isWritable heliterals,
      text_eq_iff hdliterals heliterals hd.wellFormed.2.inOrder he.wellFormed.2.inOrder,
      ← Parameter.map_shown_eq_iff]
    exact ⟨And.right, fun h => ⟨hwritable h ▸ hok, h⟩⟩

/-- A truth value in the default of one parameter and the number that is equal to it in that of
another one make two texts, in both ways of writing. -/
theorem written_eq_iff_bool_int :
    let fill (v : Value) : MethodDefinition :=
      ((MethodBuilder.empty ⟨.ofText "tile", by decide +kernel⟩ .publicMember).run
        [.parameter .optional (.str "fill") (.list [v, .symbol "b"])]).1.freeze
    (∀ v, (fill v).IsFrozen) ∧ (∀ b, (fill (.bool b)).HasLiterals) ∧
      (∀ n, (fill (.int n)).HasLiterals) ∧
      (∃ text, (fill (.bool true)).written = .ok text ∧ (fill (.int 1)).written ≠ .ok text) ∧
      ∃ s u text, (fill (.bool true)).signature = .ok s ∧ (fill (.int 1)).signature = .ok u ∧
        s.written = .ok text ∧ u.written ≠ .ok text := by
  intro fill
  have hfrozen (v : Value) : (fill v).IsFrozen :=
    ⟨_, ⟨.str "tile", .str "public", _, _, rfl, rfl⟩, rfl⟩
  have hliterals {v : Value} (hv : IsLiteral v) : (fill v).HasLiterals := by
    intro p hp _
    obtain rfl := List.mem_singleton.1 hp
    refine .list _ (List.forall_mem_cons.2 ⟨hv, ?_⟩)
    exact List.forall_mem_singleton.2 (.symbol "b")
  have hother : ¬ List.Forall₂ Parameter.ShownAlike (fill (.bool true)).parameters
      (fill (.int 1)).parameters := by
    rintro (_ | ⟨⟨-, -, hdefault⟩, -⟩)
    cases hdefault rfl
  obtain ⟨-, hdeclared, s, u, hs, hu, hboth, hsignature⟩ :=
    written_eq_iff (hfrozen (.bool true)) (hfrozen (.int 1)) (hliterals (.bool true))
      (hliterals (.int 1))
  have hwritten : (fill (.bool true)).written = .ok (fill (.bool true)).declaration := rfl
  obtain ⟨text, htext⟩ := hboth.2 ⟨_, hwritten⟩
  exact ⟨hfrozen, fun b => hliterals (.bool b), fun n => hliterals (.int n),
    ⟨_, hwritten, fun h => hother ((hdeclared _ hwritten).1 h)⟩,
    s, u, text, hs, hu, htext, fun h => hother ((hsignature text htext).1 h)⟩

end MethodDefinition

end StubClass
