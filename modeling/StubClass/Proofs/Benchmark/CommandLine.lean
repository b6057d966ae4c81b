import Mathlib.Data.List.Infix
import Mathlib.Data.List.TakeWhile
import StubClass.Benchmark.CommandLine

set_option autoImplicit false

/-! # Command lines that ask for measurements

A command line asks for measurements just when it is nothing but the option for the place of the
results, time and again (`Command.read_eq_measure_iff`). The option may be shortened as long as it
is told from the help, and its value stands in the next word or behind an equals sign; behind that
it may be anything, and in a word of its own anything that does not look like an option. The last
value counts. -/

namespace StubClass.Benchmark

/-! ## Spellings -/

/-- The ways to write the option for the place of the results. Two minus signs are also a beginning
of the other option. -/
def IsSpelling (cs : List Char) : Prop :=
  3 ≤ cs.length ∧ cs <+: Flag.output.long.toList

instance : DecidablePred IsSpelling := fun _ =>
  inferInstanceAs (Decidable (_ ∧ _))

theorem startsWith_iff {flag : Flag} {cs : List Char} :
    flag.startsWith cs = true ↔ cs <+: flag.long.toList :=
  List.isPrefixOf_iff_prefix

/-- The spellings are told from those of the help by their third character. -/
theorem isSpelling_iff {cs : List Char} :
    IsSpelling cs ↔ Flag.help.startsWith cs = false ∧ Flag.output.startsWith cs = true := by
  have houtput : Flag.output.long.toList = ['-', '-', 'o', 'u', 't', 'p', 'u', 't'] := rfl
  have hhelp : Flag.help.long.toList = ['-', '-', 'h', 'e', 'l', 'p'] := rfl
  rw [IsSpelling, ← Bool.not_eq_true, startsWith_iff, startsWith_iff]
  refine and_congr_left fun h => ?_
  rw [houtput] at h
  rw [hhelp]
  match cs with
  | [] => simp
  | [a] => simp_all
  | [a, b] => simp_all
  | a :: b :: c :: cs => simp_all

/-- The options that some characters are a beginning of: just the second one for its spellings. -/
theorem filter_startsWith (cs : List Char) :
    Flag.all.filter (fun f => f.startsWith cs) =
      (if Flag.help.startsWith cs then [.help] else [])
        ++ if Flag.output.startsWith cs then [.output] else [] := by
  rw [Flag.all, List.filter_cons, List.filter_cons, List.filter_nil]
  cases Flag.help.startsWith cs <;> rfl

theorem ofOther_eq_plain_iff {cs : List Char} {value : String} :
    Word.ofOther ('-' :: cs) = .plain value ↔
      value = String.ofList ('-' :: cs) ∧ (isNumber cs = true ∨ ' ' ∈ cs) := by
  have hcond : (isNumber (('-' :: cs).drop 1) || ('-' :: cs).contains ' ') = true ↔
      isNumber cs = true ∨ ' ' ∈ cs := by
    simp
  rw [Word.ofOther]
  split
  case isTrue h =>
    rw [Word.plain.injEq, eq_comm, iff_self_and]
    exact fun _ => hcond.1 h
  case isFalse h =>
    rw [hcond] at h
    simp [h]

theorem ofOther_ne_option (cs : List Char) (flag : Flag) (joined : Option String) :
    Word.ofOther cs ≠ .option flag joined := by
  unfold Word.ofOther
  split <;> simp

theorem ofLong_eq_output_iff {cs : List Char} {joined : Option String} :
    Word.ofLong cs = .ok (.option .output joined) ↔
      IsSpelling (cs.takeWhile (· != '=')) ∧ joinedValue cs = joined := by
  rw [Word.ofLong, filter_startsWith, isSpelling_iff]
  cases Flag.help.startsWith (cs.takeWhile (· != '=')) <;>
    cases Flag.output.startsWith (cs.takeWhile (· != '=')) <;> simp [ofOther_ne_option]

/-! ## Values -/

/-- Whether characters are taken as an option, with or without something joined to it. -/
def IsOption (cs : List Char) : Prop :=
  ['-', 'h'] <+: cs ∨
    ['-', '-'] <+: cs ∧ ∃ flag : Flag, cs.takeWhile (· != '=') <+: flag.long.toList

/-- Whether a word may be a value. One that starts with a minus sign may if it is nothing else, or
if it is no option and a negative number or not of one piece. -/
def IsValue (text : String) : Prop :=
  ∀ cs, text.toList = '-' :: cs →
    cs = [] ∨ ¬ IsOption ('-' :: cs) ∧ (isNumber cs = true ∨ ' ' ∈ cs)

theorem ofLong_eq_plain_iff {cs : List Char} {value : String} :
    Word.ofLong ('-' :: '-' :: cs) = .ok (.plain value) ↔
      value = String.ofList ('-' :: '-' :: cs) ∧ ¬ IsOption ('-' :: '-' :: cs) ∧
        (isNumber ('-' :: cs) = true ∨ ' ' ∈ '-' :: cs) := by
  have hoption : IsOption ('-' :: '-' :: cs) ↔
      Flag.help.startsWith (('-' :: '-' :: cs).takeWhile (· != '=')) = true ∨
        Flag.output.startsWith (('-' :: '-' :: cs).takeWhile (· != '=')) = true := by
    rw [startsWith_iff, startsWith_iff]
    constructor
    · rintro (h | ⟨-, flag, h⟩)
      · simp at h
      · cases flag with
        | help => exact .inl h
        | output => exact .inr h
    · rintro (h | h)
      · exact .inr ⟨by simp, .help, h⟩
      · exact .inr ⟨by simp, .output, h⟩
  rw [hoption, Word.ofLong, filter_startsWith]
  cases Flag.help.startsWith (('-' :: '-' :: cs).takeWhile (· != '=')) <;>
    cases Flag.output.startsWith (('-' :: '-' :: cs).takeWhile (· != '=')) <;>
    simp [ofOther_eq_plain_iff]

theorem read_eq_plain_iff {text value : String} :
    Word.read text = .ok (.plain value) ↔ value = text ∧ IsValue text := by
  have htext : text = String.ofList text.toList := by simp
  have hshort (cs : List Char) : IsOption ('-' :: 'h' :: cs) := .inl (by simp)
  rw [Word.read]
  split
  case h_1 cs hcs =>
    rw [ofLong_eq_plain_iff, ← hcs, ← htext]
    simp [IsValue, hcs]
  case h_2 hcs => simp [IsValue, hshort, hcs]
  case h_3 cs hcs => simp [IsValue, hshort, hcs]
  case h_4 cs _ _ hcs => simp [IsValue, hshort, hcs]
  case h_5 c cs hlong _ _ hhelp hcs =>
    have hother : ¬ IsOption ('-' :: c :: cs) := by
      rintro (h | ⟨h, -⟩)
      · simp only [List.cons_prefix_cons] at h
        exact hhelp h.2.1.symm
      · simp only [List.cons_prefix_cons] at h
        exact hlong h.2.1.symm
    rw [Except.ok.injEq, ofOther_eq_plain_iff, ← hcs, ← htext]
    simp [IsValue, hcs, hother]
  case h_6 _ _ _ _ hnone =>
    have hvalue : IsValue text := by
      intro cs hcs
      cases cs with
      | nil => exact .inl rfl
      | cons c cs => exact absurd hcs (hnone c cs)
    simp [hvalue, eq_comm]

/-! ## The option -/

theorem IsSpelling.no_equals {cs : List Char} (h : IsSpelling cs) :
    ∀ c ∈ cs, (c != '=') = true := by
  have hlong : Flag.output.long.toList.all (· != '=') = true := by decide
  exact fun c hc => List.all_eq_true.1 hlong c (h.2.subset hc)

theorem IsSpelling.minus {cs : List Char} (h : IsSpelling cs) : ['-', '-'] <+: cs := by
  have htwo : ['-', '-'] <+: Flag.output.long.toList := by decide
  exact List.prefix_of_prefix_length_le htwo h.2 (Nat.le_of_succ_le h.1)

/-- An option is read from its spelling and from what is behind it. -/
theorem read_eq_output_iff {text : String} {joined : Option String} :
    Word.read text = .ok (.option .output joined) ↔
      IsSpelling (text.toList.takeWhile (· != '=')) ∧ joinedValue text.toList = joined := by
  have hminus (h : IsSpelling (text.toList.takeWhile (· != '='))) :
      ∃ rest, text.toList = '-' :: '-' :: rest := by
    obtain ⟨rest, hrest⟩ := h.minus.trans (List.takeWhile_prefix _)
    exact ⟨rest, hrest.symm⟩
  rw [Word.read]
  split
  case h_1 cs hcs => rw [ofLong_eq_output_iff, hcs]
  -- none of the other words starts with two minus signs
  all_goals
    refine iff_of_false (by simp [ofOther_ne_option]) fun h => ?_
    obtain ⟨rest, hrest⟩ := hminus h.1
    grind

theorem joinedValue_of_forall {cs : List Char} (h : ∀ c ∈ cs, (c != '=') = true) :
    joinedValue cs = none := by
  rw [joinedValue, List.dropWhile_eq_nil_iff.2 h]

theorem joinedValue_append {cs : List Char} (h : ∀ c ∈ cs, (c != '=') = true) (value : String) :
    joinedValue (cs ++ '=' :: value.toList) = some value := by
  rw [joinedValue, List.dropWhile_append_of_pos h]
  simp

/-- The option with nothing joined to it is just its spelling. -/
theorem read_eq_output_none_iff {text : String} :
    Word.read text = .ok (.option .output none) ↔ IsSpelling text.toList := by
  rw [read_eq_output_iff]
  constructor
  · rintro ⟨h, hjoined⟩
    have hall : text.toList.dropWhile (· != '=') = [] := by
      unfold joinedValue at hjoined
      split at hjoined
      case h_1 hnil => exact hnil
      case h_2 => cases hjoined
    rwa [← List.takeWhile_append_dropWhile (p := (· != '=')) (l := text.toList), hall,
      List.append_nil]
  · intro h
    rw [List.takeWhile_eq_self_iff.2 h.no_equals]
    exact ⟨h, joinedValue_of_forall h.no_equals⟩

/-- The option with a value joined to it. -/
theorem read_eq_output_some_iff {text value : String} :
    Word.read text = .ok (.option .output (some value)) ↔
      ∃ option : String, IsSpelling option.toList ∧ text = option ++ "=" ++ value := by
  rw [read_eq_output_iff]
  constructor
  · rintro ⟨h, hjoined⟩
    refine ⟨String.ofList (text.toList.takeWhile (· != '=')), by simpa using h, ?_⟩
    rw [joinedValue] at hjoined
    split at hjoined
    case h_1 => cases hjoined
    case h_2 c rest hrest =>
      have hc : c = '=' := by
        have hhead := List.dropWhile_get_zero_not (· != '=') text.toList (by simp [hrest])
        simpa [hrest] using hhead
      obtain rfl : String.ofList rest = value := Option.some.inj hjoined
      rw [hc] at hrest
      apply String.toList_inj.1
      simp [← hrest, List.takeWhile_append_dropWhile]
  · rintro ⟨option, h, rfl⟩
    have htext : (option ++ "=" ++ value).toList = option.toList ++ '=' :: value.toList := by simp
    rw [htext, List.takeWhile_append_of_pos h.no_equals]
    exact ⟨by simpa using h, joinedValue_append h.no_equals value⟩

/-! ## Command lines -/

/-- The command lines that ask for measurements, with the places that they give in order. -/
inductive Gives : List String → List String → Prop where
  | nil : Gives [] []
  | apart {option value : String} {texts places : List String} (hoption : IsSpelling option.toList)
      (hvalue : IsValue value) (h : Gives texts places) :
      Gives (option :: value :: texts) (value :: places)
  | joined {option value : String} {texts places : List String}
      (hoption : IsSpelling option.toList) (h : Gives texts places) :
      Gives ((option ++ "=" ++ value) :: texts) (value :: places)

/-- The divider by itself is a beginning of both options, so it is no word of any other kind. -/
theorem ne_divider_of_read {text : String} {w : Word} (h : Word.read text = .ok w) :
    text ≠ "--" := by
  rintro rfl
  cases h

theorem readAll_cons {text : String} {w : Word} (h : Word.read text = .ok w)
    {texts : List String} {ws : List Word} (hrest : Word.readAll texts = .ok ws) :
    Word.readAll (text :: texts) = .ok (w :: ws) := by
  rw [Word.readAll, if_neg (by simpa using ne_divider_of_read h), h, hrest]
  rfl

theorem eq_nil_of_readAll {texts : List String} (h : Word.readAll texts = .ok []) : texts = [] := by
  cases texts with
  | nil => rfl
  | cons text rest =>
      rw [Word.readAll] at h
      split at h
      case isTrue => cases h
      case isFalse =>
          cases hword : Word.read text <;> cases hrest : Word.readAll rest <;>
            simp [hword, hrest, bind, Except.bind, pure, Except.pure] at h

/-- A word other than the divider is read from the first text. -/
theorem readAll_eq_cons {texts : List String} {w : Word} {ws : List Word} (hw : w ≠ .divider)
    (h : Word.readAll texts = .ok (w :: ws)) :
    ∃ text rest, texts = text :: rest ∧ Word.read text = .ok w ∧ Word.readAll rest = .ok ws := by
  cases texts with
  | nil => cases h
  | cons text rest =>
      rw [Word.readAll] at h
      split at h
      case isTrue =>
          cases h
          exact absurd rfl hw
      case isFalse =>
          refine ⟨text, rest, rfl, ?_⟩
          cases hword : Word.read text <;> cases hrest : Word.readAll rest <;>
            simp_all [bind, Except.bind, pure, Except.pure]

/-- Where the results go: to the last place that is given, if there is one. -/
def Destination.lastOf (release : Release) (places : List String) (output : Destination) :
    Destination :=
  (places.getLast?.map (ofJoined release)).getD output

variable {release : Release}

theorem Destination.lastOf_cons (place : String) (places : List String) (output : Destination) :
    lastOf release (place :: places) output = lastOf release places (ofJoined release place) := by
  rw [lastOf, lastOf, List.getLast?_cons]
  cases places.getLast? <;> rfl

theorem Destination.ofJoined_of_isValue {place : String} (h : IsValue place) :
    ofJoined release place = named place := by
  have hne := ne_divider_of_read (read_eq_plain_iff.2 ⟨rfl, h⟩)
  rw [ofJoined, if_neg fun h => hne h.2]

/-- Words that are no options are never forgotten, and then nothing is measured. -/
theorem others_eq_nil {output destination : Destination} {others : List String} {ws : List Word}
    (h : Command.ofWords release output others ws = .ok (.measure destination)) : others = [] := by
  fun_induction Command.ofWords release output others ws with
  | case1 output others hempty => exact List.isEmpty_iff.1 hempty
  | case3 _ _ _ _ ih | case4 _ _ _ _ ih | case5 _ _ _ ih =>
      exact absurd (ih h) (List.append_ne_nil_of_right_ne_nil _ (List.cons_ne_nil _ _))
  | case10 _ _ _ _ ih | case11 _ _ _ _ ih => exact ih h
  | _ => cases h

/-- Words that come to measurements are read from a command line that asks for them. -/
theorem gives_of_ofWords {output destination : Destination} {others : List String}
    {ws : List Word} (h : Command.ofWords release output others ws = .ok (.measure destination))
    {texts : List String} (hread : Word.readAll texts = .ok ws) :
    ∃ places, Gives texts places ∧ destination = .lastOf release places output := by
  fun_induction Command.ofWords release output others ws generalizing texts with
  | case1 =>
      cases h
      rw [eq_nil_of_readAll hread]
      exact ⟨[], .nil, rfl⟩
  | case3 | case4 | case5 =>
      exact absurd (others_eq_nil h) (List.append_ne_nil_of_right_ne_nil _ (List.cons_ne_nil _ _))
  | case10 output others value ws ih =>
      obtain ⟨text, rest, rfl, hword, hrest⟩ := readAll_eq_cons (by simp) hread
      obtain ⟨option, hoption, rfl⟩ := read_eq_output_some_iff.1 hword
      obtain ⟨places, hgives, hlast⟩ := ih h hrest
      exact ⟨value :: places, .joined hoption hgives, by rw [Destination.lastOf_cons, hlast]⟩
  | case11 output others value ws ih =>
      obtain ⟨option, _, rfl, hoption, hvalues⟩ := readAll_eq_cons (by simp) hread
      obtain ⟨text, rest, rfl, hword, hrest⟩ := readAll_eq_cons (by simp) hvalues
      obtain ⟨rfl, hvalue⟩ := read_eq_plain_iff.1 hword
      obtain ⟨places, hgives, hlast⟩ := ih h hrest
      refine ⟨value :: places, .apart (read_eq_output_none_iff.1 hoption) hvalue hgives, ?_⟩
      rw [Destination.lastOf_cons, Destination.ofJoined_of_isValue hvalue, hlast]
  | _ => cases h

/-- A command line that asks for measurements is read as words that come to them. -/
theorem Gives.ofWords {texts places : List String} (h : Gives texts places) :
    ∃ ws, Word.readAll texts = .ok ws ∧ ∀ output,
      Command.ofWords release output [] ws = .ok (.measure (.lastOf release places output)) := by
  induction h with
  | nil => exact ⟨[], rfl, fun _ => rfl⟩
  | apart hoption hvalue _ ih =>
      obtain ⟨ws, hread, hwords⟩ := ih
      have hword := readAll_cons (read_eq_plain_iff.2 ⟨rfl, hvalue⟩) hread
      refine ⟨_, readAll_cons (read_eq_output_none_iff.2 hoption) hword, fun output => ?_⟩
      rw [Command.ofWords, hwords, Destination.lastOf_cons, Destination.ofJoined_of_isValue hvalue]
  | joined hoption _ ih =>
      obtain ⟨ws, hread, hwords⟩ := ih
      refine ⟨_, readAll_cons (read_eq_output_some_iff.2 ⟨_, hoption, rfl⟩) hread, fun output => ?_⟩
      rw [Command.ofWords, hwords, Destination.lastOf_cons]

/-- **A command line asks for measurements just when it only gives places for the results.** They
then go to the last one. All releases of the reader agree on that. -/
theorem Command.read_eq_measure_iff {texts : List String} {destination : Destination} :
    Command.read release texts = .ok (.measure destination) ↔
      ∃ places, Gives texts places ∧ destination = .lastOf release places .standard := by
  rw [Command.read]
  constructor
  · intro h
    split at h
    case h_1 => cases h
    case h_2 ws hread => exact gives_of_ofWords h hread
  · rintro ⟨places, hgives, rfl⟩
    obtain ⟨ws, hread, hwords⟩ := hgives.ofWords
    rw [hread]
    exact hwords _

end StubClass.Benchmark
