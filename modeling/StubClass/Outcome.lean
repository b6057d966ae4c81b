set_option autoImplicit false

/-! # Parts that may fail one after another

What comes behind a part is done with what the part comes to, unless the part fails. -/

namespace StubClass

variable {ε α β : Type} {x : Except ε α} {f : α → Except ε β}

/-- What a part comes to is of one sort, or the error that it fails with is of another. -/
def ComesTo (x : Except ε α) (P : α → Prop) (E : ε → Prop) : Prop :=
  (∃ a, x = .ok a ∧ P a) ∨ ∃ e, x = .error e ∧ E e

theorem ComesTo.imp {P Q : α → Prop} {E F : ε → Prop} (h : ComesTo x P E)
    (hPQ : ∀ a, P a → Q a) (hEF : ∀ e, E e → F e) : ComesTo x Q F :=
  Or.imp (fun ⟨a, ha, hP⟩ => ⟨a, ha, hPQ a hP⟩) (fun ⟨e, he, hE⟩ => ⟨e, he, hEF e hE⟩) h

theorem ComesTo.bind {P : α → Prop} {Q : β → Prop} {E : ε → Prop} (hx : ComesTo x P E)
    (hf : ∀ a, P a → ComesTo (f a) Q E) : ComesTo (x >>= f) Q E := by
  rcases hx with ⟨a, rfl, ha⟩ | ⟨e, rfl, he⟩
  · exact hf a ha
  · exact .inr ⟨e, rfl, he⟩

end StubClass
