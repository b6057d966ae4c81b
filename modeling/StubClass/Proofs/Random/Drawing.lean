import Mathlib.Algebra.Group.Int.Defs
import Mathlib.Algebra.Group.Nat.Defs
import StubClass.Method.Return
import StubClass.Proofs.Generator.Course
import StubClass.Proofs.Settings

set_option autoImplicit false

/-! # What is drawn at random

A seeded source makes everything of words of 32 bits, whatever its state is. The number of a
character is a fraction below one times the number of characters, rounded to 53 binary digits: it
cannot be rounded up to the number of characters (`choice_lt`), so there always is a character.
Numbers of a range are tried until one is in it: the draw ends if one is made sooner or later
(`Twister.Hits.exists_below`). A system source makes what it is asked for of any choices. Together
this says what a draw for a marker comes to (`Value.drawIfMarker_seeded`,
`Value.drawIfMarker_system`), and settings are accepted just when such draws can be asked for
(`Settings.ofCandidates_draws`). -/

namespace StubClass

open StubClass.Random (Request Source alphabet)

namespace Random

/-! ## Numbers of characters -/

namespace Twister

theorem fraction53_lt (t : Twister) : t.fraction53.1 < 2 ^ 53 := by
  have hhigh : t.next.1.toNat < 2 ^ 32 := t.next.1.toNat_lt
  have hlow : t.next.2.next.1.toNat < 2 ^ 32 := t.next.2.next.1.toNat_lt
  show t.next.1.toNat / 32 * 2 ^ 26 + t.next.2.next.1.toNat / 64 < 2 ^ 53
  omega

theorem bitLength_le {n width : Nat} (h : n < 2 ^ width) : bitLength n ≤ width := by
  unfold bitLength
  split
  · exact Nat.zero_le width
  · next hn => exact (Nat.log2_lt hn).2 h

/-- Rounding adds at most half of the last digit that is kept. -/
theorem rounded53_le {n width : Nat} (h : n < 2 ^ (53 + width + 1)) :
    rounded53 n ≤ n + 2 ^ width := by
  obtain ⟨hnear, -⟩ := Number.roundEven_near n (Number.twoPow_pos (bitLength n - 53))
  have hunit : Number.twoPow (bitLength n - 53) ≤ 2 ^ (width + 1) := by
    have hbits := bitLength_le h
    exact Nat.pow_le_pow_right Nat.two_pos (by omega)
  rw [Nat.pow_succ] at hunit
  rw [rounded53, Nat.mul_comm]
  omega

theorem choice_lt {count width : Nat} (hlow : 2 ^ width < count) (hhigh : count ≤ 2 ^ (width + 1))
    (t : Twister) : (t.choice count).1 < count := by
  have hfraction : t.fraction53.1 * count ≤ (2 ^ 53 - 1) * count :=
    Nat.mul_le_mul_right count (Nat.le_pred_of_lt t.fraction53_lt)
  have hbound : 2 ^ 53 * count ≤ 2 ^ (53 + width + 1) := by
    rw [Nat.add_assoc, Nat.pow_add]
    exact Nat.mul_le_mul_left _ hhigh
  have hrounded : rounded53 (t.fraction53.1 * count) ≤ t.fraction53.1 * count + 2 ^ width :=
    rounded53_le (by omega)
  show rounded53 (t.fraction53.1 * count) / 2 ^ 53 < count
  exact Nat.div_lt_of_lt_mul (by omega)

/-! ## Numbers of a range -/

/-- Whether a number below a bound is made sooner or later. -/
inductive Hits (bound : Nat) : Twister → Prop where
  | now {t : Twister} (h : (t.bits (bitLength bound)).1 < bound) : Hits bound t
  | later {t : Twister} (h : Hits bound (t.bits (bitLength bound)).2) : Hits bound t

/-- A number that is made sooner or later is drawn. -/
theorem Hits.exists_below {bound : Nat} {t : Twister} (h : Hits bound t) :
    ∃ drawn, t.below bound = some drawn := by
  induction h with
  | now h =>
      rw [below_eq, attempt]
      simp only [dif_pos h]
      exact ⟨_, rfl⟩
  | @later t h ih =>
      rw [below_eq, attempt]
      -- the number may be small enough already, though one that is made later is too
      by_cases hnow : (t.bits (bitLength bound)).1 < bound
      · simp only [dif_pos hnow]
        exact ⟨_, rfl⟩
      · simp only [dif_neg hnow]
        exact ih

end Twister

namespace Device

/-! ## Texts -/

theorem nextLetter_run (t : Twister) : ∃ c u, nextLetter.run t = (.ok c, u) ∧ c ∈ alphabet := by
  have hlt : (t.choice alphabet.length).1 < alphabet.length :=
    Twister.choice_lt (by decide : 2 ^ 5 < alphabet.length) (by decide) t
  have hchoice := run_modifyGet (fun t : Twister => t.choice alphabet.length) t
  refine ⟨alphabet[(t.choice alphabet.length).1], (t.choice alphabet.length).2, ?_,
    List.getElem_mem hlt⟩
  rw [nextLetter, run_bind_ok hchoice, List.getElem?_eq_getElem hlt]
  rfl

theorem letters_run (n : Nat) (t : Twister) :
    ∃ cs u, (letters n).run t = (.ok cs, u) ∧ cs.length = n ∧ ∀ c ∈ cs, c ∈ alphabet := by
  induction n generalizing t with
  | zero => exact ⟨[], t, rfl, rfl, by simp⟩
  | succ n ih =>
      obtain ⟨c, u, hc, hmem⟩ := nextLetter_run t
      obtain ⟨cs, last, hcs, hlength, hall⟩ := ih u
      refine ⟨c :: cs, last, ?_, by rw [List.length_cons, hlength], ?_⟩
      · rw [letters, run_bind_ok hc, run_bind_ok hcs]
        rfl
      · rw [List.forall_mem_cons]
        exact ⟨hmem, hall⟩

theorem letter_mem (n : Nat) : letter n ∈ alphabet := by
  have hlt : n % alphabet.length < alphabet.length := Nat.mod_lt n (by decide)
  rw [letter, List.getD_eq_getElem?_getD, List.getElem?_eq_getElem hlt, Option.getD_some]
  exact List.getElem_mem hlt

/-! ## Answers -/

/-- What a device answers when a text of a length is asked for. -/
def IsText (length : Int) (v : Value) : Prop :=
  ∃ text : String, v = .str text ∧ (text.length : Int) = length ∧ ∀ c ∈ text.toList, c ∈ alphabet

theorem isText_ofList {cs : List Char} {length : Int} (hlength : (cs.length : Int) = length)
    (h : ∀ c ∈ cs, c ∈ alphabet) : IsText length (.str (String.ofList cs)) :=
  ⟨_, rfl, by rw [String.length_ofList, hlength], by rwa [String.toList_ofList]⟩

/-- A seeded device answers with a text, unless its length is no number of parts. -/
theorem text_seeded (seed : Int) (t : Twister) {n : Int} (hn : 1 ≤ n) :
    (n < 2 ^ 63 → ∃ v, (text (.seeded seed t) (.int n)).1 = .ok v ∧ IsText n v) ∧
      (2 ^ 63 ≤ n → (text (.seeded seed t) (.int n)).1 =
        .error (.ordinary .overflow "Python int too large to convert to C ssize_t")) := by
  have hwhole : (Value.int n).wholeNumber = .ok n := rfl
  constructor
  · intro hsize
    obtain ⟨cs, u, hcs, hlength, hall⟩ := letters_run n.toNat t
    have hfits : Value.asSize n = .ok n :=
      if_pos ((Value.isSize_iff n).2 (by simp only [Value.maxSize]; omega))
    simp only [text, hwhole, hfits, hcs]
    exact ⟨_, rfl, isText_ofList (by omega) hall⟩
  · intro hlong
    have hmany : ¬ Value.isSize n = true := by
      rw [Value.isSize_iff]
      simp only [Value.maxSize]
      omega
    simp only [text, hwhole, Value.asSize, if_neg hmany]

theorem below_wide {bound : Nat} (h : maxWidth < Twister.bitLength bound) (t : Twister) :
    below bound t =
      .error (.ordinary .overflow "Python int too large to convert to C int") := by
  rw [below, if_pos h]

theorem below_narrow {bound : Nat} (h : Twister.bitLength bound ≤ maxWidth) (t : Twister) :
    below bound t =
      match t.below bound with
      | some (k, t) => .ok (k.val, t)
      | none => .error .unfinishedDraw :=
  if_neg (Nat.not_lt.2 h)

theorem lt_of_below {bound k : Nat} {t u : Twister} (h : below bound t = .ok (k, u)) :
    k < bound := by
  rcases Nat.lt_or_ge maxWidth (Twister.bitLength bound) with hwide | hnarrow
  · rw [below_wide hwide] at h
    cases h
  · rw [below_narrow hnarrow] at h
    cases hdrawn : t.below bound with
    | none =>
        rw [hdrawn] at h
        cases h
    | some drawn =>
        rw [hdrawn] at h
        cases h
        exact drawn.1.isLt

theorem integer_eq_below (seed : Int) (t : Twister) {low high : Int} (h : low ≤ high) :
    (integer (.seeded seed t) (.int low) (.int high)).1 =
      (below (high - low + 1).toNat t).map fun drawn => .int (low + drawn.1) := by
  have hbounds : bounds (.int low) (.int high) = .ok (low, high) := by
    show Except.ok (low, high + 1 - 1) = _
    rw [Int.add_sub_cancel]
  rw [integer, hbounds]
  simp only [if_pos h]
  cases below (high - low + 1).toNat t <;> rfl

/-- A seeded device answers with a number of the range, or fails as drawing it does. -/
theorem integer_seeded (seed : Int) (t : Twister) {low high : Int} (h : low ≤ high) :
    (∃ e, below (high - low + 1).toNat t = .error e ∧
        (integer (.seeded seed t) (.int low) (.int high)).1 = .error e) ∨
      ∃ n, (integer (.seeded seed t) (.int low) (.int high)).1 = .ok (.int n) ∧
        low ≤ n ∧ n ≤ high := by
  rw [integer_eq_below seed t h]
  cases hbelow : below (high - low + 1).toNat t with
  | error e => exact .inl ⟨e, rfl, rfl⟩
  | ok drawn =>
      have hlt := lt_of_below hbelow
      exact .inr ⟨_, rfl, by omega, by omega⟩

/-- Whether a device, if it is a seeded one, makes a number of a range sooner or later. -/
def HitsRange (d : Device) (low high : Int) : Prop :=
  ∀ seed t, d = .seeded seed t → t.Hits (high - low + 1).toNat

theorem integer_hits {d : Device} {seed : Int} {t : Twister} (hd : d = .seeded seed t)
    {low high : Int} (h : low ≤ high)
    (hwidth : Twister.bitLength (high - low + 1).toNat ≤ maxWidth)
    (hhits : d.HitsRange low high) :
    ∃ n, (d.integer (.int low) (.int high)).1 = .ok (.int n) ∧ low ≤ n ∧ n ≤ high := by
  obtain ⟨drawn, hdrawn⟩ := (hhits seed t hd).exists_below
  rcases integer_seeded seed t h with ⟨e, hfails, -⟩ | hn
  · rw [below_narrow hwidth, hdrawn] at hfails
    cases hfails
  · rwa [hd]

theorem text_system (choices : Nat → Nat) (used : Nat) {n : Int} (hn : 1 ≤ n) :
    ∃ v, (text (.system choices used) (.int n)).1 = .ok v ∧ IsText n v := by
  refine ⟨_, rfl, isText_ofList (by simp; omega) fun c hc => ?_⟩
  obtain ⟨i, -, rfl⟩ := List.mem_map.1 hc
  exact letter_mem _

theorem integer_system (choices : Nat → Nat) (used : Nat) {low high : Int} (h : low ≤ high) :
    ∃ n, (integer (.system choices used) (.int low) (.int high)).1 = .ok (.int n) ∧
      low ≤ n ∧ n ≤ high := by
  have hwidth : width (.int low) (.int high) = .ok (high - low + 1).toNat := by
    have hbelow : (Value.int 0).isBelow (.int (high - low + 1)) = .ok true := by
      rw [Value.isBelow_int, decide_eq_true (by omega)]
    have hminus : (Value.int high).minus (.int low) = .ok (.int (high - low)) := rfl
    have hplus : (Value.int (high - low)).plusWhole 1 = .ok (.int (high - low + 1)) := rfl
    unfold width
    simp only [hminus, hplus, hbelow, bind, Except.bind, if_true]
    rfl
  have hlt : choices used % (high - low + 1).toNat < (high - low + 1).toNat :=
    Nat.mod_lt _ (by omega)
  refine ⟨low + (choices used % (high - low + 1).toNat : Nat), ?_, by omega, by omega⟩
  rw [integer, hwidth]
  rfl

end Device

/-! ## Runs of draws -/

namespace Device

/-- The device as it was when it was new. -/
def renewed : Device → Device
  | seeded seed _ => .seeded seed (.ofSeed seed)
  | fixed offset fill => .fixed offset fill
  | system choices _ => .system choices 0

theorem integer_renewed (d : Device) (low high : Value) :
    (d.integer low high).2.renewed = d.renewed := by
  cases d with
  | seeded seed t =>
      rw [integer]
      cases bounds low high with
      | error e => rfl
      | ok ends =>
          by_cases hle : ends.1 ≤ ends.2
          · simp only [if_pos hle]
            cases below (ends.2 - ends.1 + 1).toNat t <;> rfl
          · simp only [if_neg hle]
  | fixed offset fill => rfl
  | system choices used =>
      rw [integer]
      cases width low high <;> rfl

theorem text_renewed (d : Device) (length : Value) : (d.text length).2.renewed = d.renewed := by
  cases hlength : length.wholeNumber with
  | error e => cases d <;> simp only [text, hlength]
  | ok n =>
      cases d with
      | seeded seed t =>
          simp only [text, hlength]
          cases Value.asSize n <;> rfl
      | fixed offset fill => simp only [text, hlength]
      | system choices used =>
          simp only [text, hlength]
          rfl

end Device

namespace Source

/-- A source after some requests, whatever it has answered. -/
def after (s : Source) (earlier : List Request) : Source :=
  (s.drawAll (earlier.map .ok)).2

theorem draw_renewed (s : Source) (r : Request) :
    (s.draw r).2.device.renewed = s.device.renewed := by
  cases r with
  | integer low high => exact s.device.integer_renewed low high
  | text length => exact s.device.text_renewed length

/-- Requests leave a source of the make that it is. -/
theorem after_renewed (s : Source) (earlier : List Request) :
    (s.after earlier).device.renewed = s.device.renewed := by
  induction earlier generalizing s with
  | nil => rfl
  | cons r earlier ih => exact (ih (s.draw r).2).trans (s.draw_renewed r)

theorem after_seeded {seed : Int} {start : Source} (h : seeded (.int seed) = .ok start)
    (earlier : List Request) : ∃ t, (start.after earlier).device = .seeded seed t := by
  obtain rfl : start = ⟨.seeded seed (.ofSeed seed), []⟩ := (Except.ok.inj h).symm
  have hmake := after_renewed ⟨.seeded seed (.ofSeed seed), []⟩ earlier
  cases hdevice : (after ⟨.seeded seed (.ofSeed seed), []⟩ earlier).device with
  | seeded seed' t =>
      rw [hdevice] at hmake
      injection hmake with hseed
      exact ⟨t, by rw [hseed]⟩
  | fixed offset fill => rw [hdevice] at hmake; cases hmake
  | system choices used => rw [hdevice] at hmake; cases hmake

theorem after_system (choices : Nat → Nat) (earlier : List Request) :
    ∃ used, ((system choices).after earlier).device = .system choices used := by
  have hmake := (system choices).after_renewed earlier
  cases hdevice : ((system choices).after earlier).device with
  | seeded seed t => rw [hdevice] at hmake; cases hmake
  | fixed offset fill => rw [hdevice] at hmake; cases hmake
  | system choices' used =>
      rw [hdevice] at hmake
      injection hmake with hchoices
      exact ⟨used, by rw [hchoices]⟩

end Source

end Random

/-! ## Markers -/

/-- Whether a value is one that a marker asks for within settings. -/
def Marker.IsAnswer (settings : Settings) : Marker → Value → Prop
  | .int, v => ∃ n, v = .int n ∧ settings.integerMin ≤ n ∧ n ≤ settings.integerMax
  | .str, v => ∃ text : String, v = .str text ∧ (text.length : Int) = settings.stringLength ∧
      ∀ c ∈ text.toList, c ∈ alphabet
  | .symbol, v => ∃ text : String, v = .symbol text ∧
      (text.length : Int) = settings.stringLength ∧ ∀ c ∈ text.toList, c ∈ alphabet

/-- What a seeded source can be asked for: a number of a width that can be had at once, or a text of
a length that a text can have. -/
def Marker.IsWithin (settings : Settings) : Marker → Prop
  | .int => Random.Twister.bitLength (settings.integerMax - settings.integerMin + 1).toNat < 2 ^ 31
  | .str | .symbol => settings.stringLength < 2 ^ 63

namespace Value

variable {v : Value} {m : Marker}

theorem drawIfMarker_eq (hm : v.marker? = some m) (settings : Settings) (source : Source) :
    v.drawIfMarker settings source =
      ((source.draw (m.request settings)).1.map m.dress, (source.draw (m.request settings)).2) := by
  rw [drawIfMarker, hm]
  rfl

/-- The text of an answer, dressed as its marker wants it. -/
theorem isAnswer_dress {settings : Settings} (hm : m ≠ .int)
    {answer : Value} (h : Random.Device.IsText settings.stringLength answer) :
    m.IsAnswer settings (m.dress answer) := by
  obtain ⟨text, rfl, hlength, hall⟩ := h
  cases m with
  | int => exact absurd rfl hm
  | str => exact ⟨text, rfl, hlength, hall⟩
  | symbol => exact ⟨text, rfl, hlength, hall⟩

theorem request_text (settings : Settings) (hm : m ≠ .int) :
    m.request settings = .text (.int settings.stringLength) := by
  cases m with
  | int => exact absurd rfl hm
  | str => rfl
  | symbol => rfl

theorem isWithin_iff_text {settings : Settings} (hm : m ≠ .int) :
    m.IsWithin settings ↔ settings.stringLength < 2 ^ 63 := by
  cases m with
  | int => exact absurd rfl hm
  | str => exact Iff.rfl
  | symbol => exact Iff.rfl

variable (settings : Settings) {source : Source}

/-- A draw from a seeded source comes to what is asked for, if that is within its limits and a
number of the range is made sooner or later. -/
theorem drawIfMarker_seeded (hm : v.marker? = some m) {seed : Int} {t : Random.Twister}
    (hsource : source.device = .seeded seed t) (hwithin : m.IsWithin settings)
    (hhits : m = .int → source.device.HitsRange settings.integerMin settings.integerMax) :
    ∃ answer, (v.drawIfMarker settings source).1 = .ok answer ∧ m.IsAnswer settings answer := by
  rw [drawIfMarker_eq hm]
  by_cases hint : m = .int
  · subst hint
    have hdraw : (source.draw (Marker.int.request settings)).1 =
        (source.device.integer (.int settings.integerMin) (.int settings.integerMax)).1 := rfl
    obtain ⟨n, hn, hlow, hhigh⟩ :=
      Random.Device.integer_hits hsource settings.integerMin_le_integerMax
        (Nat.le_of_lt_succ hwithin) (hhits rfl)
    rw [hdraw, hn]
    exact ⟨_, rfl, n, rfl, hlow, hhigh⟩
  · rw [request_text settings hint]
    have hdraw : (source.draw (.text (.int settings.stringLength))).1 =
        (source.device.text (.int settings.stringLength)).1 := rfl
    obtain ⟨answer, hanswer, htext⟩ :=
      (Random.Device.text_seeded seed t settings.one_le_stringLength).1
        ((isWithin_iff_text hint).1 hwithin)
    rw [hdraw, hsource, hanswer]
    exact ⟨_, rfl, isAnswer_dress hint htext⟩

/-- A draw from a seeded source that is not within its limits fails. -/
theorem drawIfMarker_seeded_outside (hm : v.marker? = some m) {seed : Int} {t : Random.Twister}
    (hsource : source.device = .seeded seed t) (hwithin : ¬ m.IsWithin settings) :
    ∃ text, (v.drawIfMarker settings source).1 = .error (.ordinary .overflow text) := by
  rw [drawIfMarker_eq hm]
  by_cases hint : m = .int
  · subst hint
    have hdraw : (source.draw (Marker.int.request settings)).1 =
        (source.device.integer (.int settings.integerMin) (.int settings.integerMax)).1 := rfl
    have hwide : Random.Device.maxWidth <
        Random.Twister.bitLength (settings.integerMax - settings.integerMin + 1).toNat :=
      Nat.lt_of_not_le fun h => hwithin (Nat.lt_succ_of_le h)
    rw [hdraw, hsource, Random.Device.integer_eq_below seed t settings.integerMin_le_integerMax,
      Random.Device.below_wide hwide]
    exact ⟨_, rfl⟩
  · rw [request_text settings hint]
    have hdraw : (source.draw (.text (.int settings.stringLength))).1 =
        (source.device.text (.int settings.stringLength)).1 := rfl
    have hlong : (2 : Int) ^ 63 ≤ settings.stringLength :=
      Int.not_lt.1 fun h => hwithin ((isWithin_iff_text hint).2 h)
    rw [hdraw, hsource,
      (Random.Device.text_seeded seed t settings.one_le_stringLength).2 hlong]
    exact ⟨_, rfl⟩

theorem drawIfMarker_system (hm : v.marker? = some m) {choices : Nat → Nat} {used : Nat}
    (hsource : source.device = .system choices used) :
    ∃ answer, (v.drawIfMarker settings source).1 = .ok answer ∧ m.IsAnswer settings answer := by
  rw [drawIfMarker_eq hm]
  by_cases hint : m = .int
  · subst hint
    have hdraw : (source.draw (Marker.int.request settings)).1 =
        (source.device.integer (.int settings.integerMin) (.int settings.integerMax)).1 := rfl
    obtain ⟨n, hn, hlow, hhigh⟩ :=
      Random.Device.integer_system choices used settings.integerMin_le_integerMax
    rw [hdraw, hsource, hn]
    exact ⟨_, rfl, n, rfl, hlow, hhigh⟩
  · rw [request_text settings hint]
    have hdraw : (source.draw (.text (.int settings.stringLength))).1 =
        (source.device.text (.int settings.stringLength)).1 := rfl
    obtain ⟨answer, hanswer, htext⟩ :=
      Random.Device.text_system choices used settings.one_le_stringLength
    rw [hdraw, hsource, hanswer]
    exact ⟨_, rfl, isAnswer_dress hint htext⟩

end Value

/-! ## Settings and draws -/

/-- **Settings are accepted just when draws can go by them.** Four candidates are accepted as the
settings that hold their parts, just when the name is an identifier and the numbers are integers, no
truth values, in order; else the first condition that they do not meet is told, if it can be
written. A draw for a marker within settings comes to a value of the kind and within the bounds that
are asked for, from a source of any choices from outside and from one of any seed that can be asked
for it, whatever it was asked before: a number from a seed if one of the range is made sooner or
later, so that the draw ends. A source of a seed that cannot be asked for it overflows. -/
theorem Settings.ofCandidates_draws (className : Candidate) (number : NumberField → Candidate) :
    let made := ofCandidates className number
    ((∃ s, made = .ok s) ↔ (∃ name, className.identifier? = some name) ∧
        ∃ minimum maximum length, (number .integerMin).bound? = some minimum ∧
          (number .integerMax).bound? = some maximum ∧
          (number .stringLength).bound? = some length ∧
          1 ≤ minimum ∧ minimum ≤ maximum ∧ 1 ≤ length) ∧
      (∀ e, made = .error e → ∃ c, firstUnmet? (conditions className number) = some c ∧
        (c.reason = .error e ∨ ∃ reason, c.reason = .ok reason ∧
          e.report? = some ⟨.invalidConfig, [("field", .str c.field), ("reason", .str reason)]⟩)) ∧
      ∀ s, made = .ok s →
        (className.identifier? = some s.className ∧
          (number .integerMin).bound? = some s.integerMin ∧
          (number .integerMax).bound? = some s.integerMax ∧
          (number .stringLength).bound? = some s.stringLength) ∧
        ∀ (earlier : List Request) (v : Value) (m : Marker), v.marker? = some m →
          (∀ (seed : Int) (start : Source), Source.seeded (.int seed) = .ok start →
            (m.IsWithin s →
              (m = .int →
                (start.after earlier).device.HitsRange s.integerMin s.integerMax) →
                ∃ answer, (v.drawIfMarker s (start.after earlier)).1 = .ok answer ∧
                  m.IsAnswer s answer) ∧
              (¬ m.IsWithin s → ∃ text, (v.drawIfMarker s (start.after earlier)).1 =
                .error (.ordinary .overflow text))) ∧
          ∀ choices : Nat → Nat,
            ∃ answer, (v.drawIfMarker s ((Source.system choices).after earlier)).1 = .ok answer ∧
              m.IsAnswer s answer := by
  intro made
  refine ⟨exists_ofCandidates_iff, fun e he => ?_, fun s hs => ⟨ofCandidates_eq_ok_iff.1 hs, ?_⟩⟩
  · obtain ⟨c, hc, hfails | ⟨reason, hreason, rfl⟩⟩ := exists_firstUnmet?_of_error he
    · exact ⟨c, hc, .inl hfails⟩
    · exact ⟨c, hc, .inr ⟨reason, hreason, rfl⟩⟩
  · intro earlier v m hm
    refine ⟨fun seed start hstart => ?_, fun choices => ?_⟩
    · obtain ⟨t, ht⟩ := Source.after_seeded hstart earlier
      exact ⟨Value.drawIfMarker_seeded s hm ht, Value.drawIfMarker_seeded_outside s hm ht⟩
    · obtain ⟨used, hused⟩ := Source.after_system choices earlier
      exact Value.drawIfMarker_system s hm hused

/-- Of a name that is a keyword and a lower end of zero the name is told; with another name and end
there are settings, and a symbol of four characters is drawn within them. -/
theorem Settings.ofCandidates_draws_symbol :
    let numbers (low : Int) (field : NumberField) : Candidate :=
      if field = .integerMin then (Value.int low).candidate
      else if field = .integerMax then (Value.int 1000000).candidate
      else (Value.int 4).candidate
    let settings : Settings := { standard with
      className := ⟨.ofText "Widget", by decide +kernel⟩, stringLength := 4,
      one_le_stringLength := by decide }
    (∀ e, ofCandidates (Value.str "class").candidate (numbers 0) = .error e →
        ∃ c, firstUnmet? (conditions (Value.str "class").candidate (numbers 0)) = some c ∧
          c.field = "class_name") ∧
      ofCandidates (Value.str "Widget").candidate (numbers 1) = .ok settings ∧
      ∀ start, Source.seeded (.int 7) = .ok start →
        ∃ answer, (Value.drawIfMarker (.type .symbol) settings
            (start.after [.integer (.int 1) (.int 9)])).1 = .ok answer ∧
          Marker.symbol.IsAnswer settings answer := by
  intro numbers settings
  have hsettings : ofCandidates (Value.str "Widget").candidate (numbers 1) = .ok settings :=
    ofCandidates_eq_ok_iff.2 ⟨by decide +kernel, rfl, rfl, rfl⟩
  refine ⟨fun e he => ?_, hsettings, fun start hstart => ?_⟩
  · obtain ⟨-, hrefused, -⟩ := ofCandidates_draws (Value.str "class").candidate (numbers 0)
    obtain ⟨c, hc, -⟩ := hrefused e he
    have hkeyword : (Value.str "class").candidate.identifier?.isSome = false := by decide +kernel
    refine ⟨c, hc, ?_⟩
    rw [firstUnmet?, conditions, List.find?_cons, hkeyword] at hc
    cases hc
    rfl
  · obtain ⟨-, -, hdraws⟩ := ofCandidates_draws (Value.str "Widget").candidate (numbers 1)
    obtain ⟨-, hall⟩ := hdraws settings hsettings
    obtain ⟨hseeded, -⟩ := hall [.integer (.int 1) (.int 9)] (.type .symbol) .symbol rfl
    have hother : Marker.symbol ≠ .int := by decide
    exact (hseeded 7 start hstart).1 (show (4 : Int) < 2 ^ 63 by decide) fun h => absurd h hother

/-- Not every draw within settings comes to a value: the text may be longer than any text. -/
theorem Settings.drawIfMarker_tooLong :
    ¬ ∀ (settings : Settings) (start : Source), Source.seeded (.int 1) = .ok start →
      ∃ answer, (Value.drawIfMarker (.type .str) settings start).1 = .ok answer := by
  intro h
  let settings : Settings :=
    { standard with stringLength := 9223372036854775808, one_le_stringLength := by decide }
  let source : Source := ⟨.seeded 1 (.ofSeed 1), []⟩
  obtain ⟨answer, hanswer⟩ := h settings source rfl
  have houtside : ¬ Marker.str.IsWithin settings :=
    show ¬ (9223372036854775808 : Int) < 2 ^ 63 by decide
  obtain ⟨text, hfails⟩ : ∃ text, (Value.drawIfMarker (.type .str) settings source).1 =
      .error (.ordinary .overflow text) :=
    Value.drawIfMarker_seeded_outside settings rfl rfl houtside
  rw [hfails] at hanswer
  cases hanswer

end StubClass
