import StubClass.Options
import StubClass.Proofs.Number.Numeral

set_option autoImplicit false

/-! # Seeds of a test run

The seed of a test run is a text. An empty one counts as not set; of any other the source follows by
reading it as an integer, so that it is decided by the grammar of integers written by hand
(`Number.readInteger?_eq_some_iff`) which texts are seeds, and of what number. -/

namespace StubClass

open StubClass.Random (Source)
open StubClass.Number (Spells IsVariant countDigits maxDigits)

theorem Number.not_spells_empty (n : Int) : ¬ Spells "" n := by
  rintro ⟨core, ⟨before, after, hcore, -, -⟩, hn⟩
  obtain ⟨c, rest, rfl, -⟩ := hn.ends.1
  simp at hcore

namespace Options

variable {o : Options} {text : String}

/-- An option with an empty text is as one that is not set. -/
theorem get?_of_text {name : String}
    (hset : (o.entries.lookup name).getD (.str "") = .str text) :
    o.get? name = if text = "" then none else some text := by
  unfold get?
  cases hvalue : o.entries.lookup name with
  | none =>
      rw [hvalue] at hset
      obtain rfl : "" = text := Value.str.inj hset
      rfl
  | some v =>
      rw [hvalue] at hset
      obtain rfl : v = .str text := hset
      by_cases htext : text = "" <;> simp [Value.truth, Value.plain, htext]

/-- The source that is chosen for a text: from the system for none, and else by reading it. -/
theorem sourceChoice_of_text
    (hset : (o.entries.lookup TestOption.seed.name).getD (.str "") = .str text) :
    o.sourceChoice =
      if text = "" then .ok .system
      else match Number.readInteger? text with
        | some n => .ok (.seeded n)
        | none => .error (.seedText text) := by
  rw [sourceChoice, get?_of_text hset]
  by_cases htext : text = ""
  · simp [htext]
  · cases hread : Number.readInteger? text <;> simp [htext, hread]

/-- **A seed is exactly an integer written by hand.** For a text of no more digits than are read, as
the seed of a test run: values come from the system just when the text is empty; they come from a
seed just when the text stands for that number, and then from the same source as is made of the
number itself; and every other text is refused, in the one way there is. What is written for a
number, which has just the digits of the number, and every variant of it stand for the number. -/
theorem sourceChoice_seed
    (hset : (o.entries.lookup TestOption.seed.name).getD (.str "") = .str text)
    (hdigits : countDigits text.toList ≤ maxDigits) :
    (o.sourceChoice = .ok .system ↔ text = "") ∧
      (∀ n, o.sourceChoice = .ok (.seeded n) ↔ Spells text n) ∧
      (∀ e, o.sourceChoice = .error e ↔
        e = .seedText text ∧ text ≠ "" ∧ ∀ n, ¬ Spells text n) ∧
      (∀ n, Spells text n ∨ IsVariant n text → ∃ choice, o.sourceChoice = .ok choice ∧
        ∀ choices, Source.seeded (.int n) = .ok (choice.source choices)) ∧
      ∀ n, IsVariant n (Value.int n).plain ∧
        countDigits (Value.int n).plain.toList = (Nat.toDigits 10 n.natAbs).length := by
  have hread := fun n => Number.readInteger?_eq_some_iff hdigits (n := n)
  have hchoice := sourceChoice_of_text hset
  have hseeded : ∀ n, o.sourceChoice = .ok (.seeded n) ↔ Spells text n := by
    intro n
    rw [hchoice, ← hread]
    by_cases htext : text = ""
    · subst htext
      simp [hread, Number.not_spells_empty]
    · rw [if_neg htext]
      cases Number.readInteger? text <;> simp
  refine ⟨?_, hseeded, ?_, ?_, fun n => ⟨Number.isVariant_plain n, Number.countDigits_plain n⟩⟩
  · rw [hchoice]
    by_cases htext : text = ""
    · simp [htext]
    · rw [if_neg htext]
      cases Number.readInteger? text <;> simp [htext]
  · intro e
    rw [hchoice]
    by_cases htext : text = ""
    · simp [htext]
    · simp only [if_neg htext, ← hread]
      cases Number.readInteger? text <;> simp [htext, eq_comm]
  · rintro n (h | h)
    · exact ⟨.seeded n, (hseeded n).2 h, fun _ => rfl⟩
    · exact ⟨.seeded n, (hseeded n).2 h.spells, fun _ => rfl⟩

/-- A minus sign and digits of two scripts, with an underscore, a zero in front and blanks around
them, are a seed. -/
theorem sourceChoice_seed_twoScripts :
    let o : Options := ⟨[("code_generator_seed", .str "\t-0_1\u0968\u3000")]⟩
    (o.entries.lookup TestOption.seed.name).getD (.str "") = .str "\t-0_1\u0968\u3000" ∧
      countDigits "\t-0_1\u0968\u3000".toList ≤ maxDigits ∧ o.sourceChoice = .ok (.seeded (-12)) ∧
      Spells "\t-0_1\u0968\u3000" (-12) := by
  intro o
  have hset : (o.entries.lookup TestOption.seed.name).getD (.str "") =
    .str "\t-0_1\u0968\u3000" := rfl
  have hdigits : countDigits "\t-0_1\u0968\u3000".toList ≤ maxDigits := by decide
  have hread : Number.readInteger? "\t-0_1\u0968\u3000" = some (-12) := by decide +kernel
  have hchoice : o.sourceChoice = .ok (.seeded (-12)) := by
    rw [sourceChoice_of_text hset, if_neg (by decide), hread]
  exact ⟨hset, hdigits, hchoice, ((sourceChoice_seed hset hdigits).2.1 (-12)).1 hchoice⟩

end Options

end StubClass
