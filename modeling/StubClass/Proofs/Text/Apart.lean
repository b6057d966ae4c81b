set_option autoImplicit false

/-! # Telling things apart by what is written for them

A text shows what it is written for if no other thing has the same text. Where texts stand one
behind the other that is not enough: it must also be clear where one of them ends. `TellsApart` says
both, for what is admitted to follow, and goes over to texts that are put together
(`flatMap_tellsApart`). -/

namespace StubClass.Text

/-- Two things are told apart by what is written for them: if they are followed by what is admitted
there, and all of it reads the same, then they are the same, and so is what follows. -/
def TellsApart {α : Type} (write : α → List Char) (Stop : List Char → Prop) (x y : α) : Prop :=
  ∀ r s, Stop r → Stop s → write x ++ r = write y ++ s → x = y ∧ r = s

/-- Whether what is written for a thing starts with another character than a certain one. -/
def StartsOtherwise {α : Type} (write : α → List Char) (c : Char) (x : α) : Prop :=
  ∀ r s, write x ++ r ≠ c :: s

variable {α β : Type} {write : α → List Char} {Stop : List Char → Prop} {x y : α}

/-- The more is admitted to follow, the harder it is to tell things apart. -/
theorem TellsApart.mono {Stop' : List Char → Prop} (h : TellsApart write Stop x y)
    (hStop : ∀ r, Stop' r → Stop r) : TellsApart write Stop' x y :=
  fun r s hr hs heq => h r s (hStop r hr) (hStop s hs) heq

theorem TellsApart.symm (h : TellsApart write Stop x y) : TellsApart write Stop y x := by
  intro r s hr hs heq
  obtain ⟨hsame, hrest⟩ := h s r hs hr heq.symm
  exact ⟨hsame.symm, hrest.symm⟩

theorem tellsApart_of_read {read : List Char → Option (β × List Char)} {f : α → β}
    (hf : f x = f y → x = y) (hx : ∀ r, read (write x ++ r) = some (f x, r))
    (hy : ∀ r, read (write y ++ r) = some (f y, r)) : TellsApart write Stop x y := by
  intro r s _ _ heq
  have hread := (hx r).symm.trans (heq ▸ hy s)
  obtain ⟨hsame, hrest⟩ := Prod.mk.inj (Option.some.inj hread)
  exact ⟨hf hsame, hrest⟩

variable (Stop) in
/-- Things that are told apart and do not start with a mark, one behind the other, end at the mark.
What follows one of them is the next one or the mark. -/
theorem flatMap_tellsApart {mark : Char} {xs ys : List α}
    (hmark : ∀ r, Stop (mark :: r)) (hmore : ∀ x r, Stop (write x ++ r))
    (happart : ∀ x ∈ xs, ∀ y ∈ ys, TellsApart write Stop x y)
    (hx : ∀ x ∈ xs, StartsOtherwise write mark x) (hy : ∀ y ∈ ys, StartsOtherwise write mark y)
    {r s : List Char} (h : xs.flatMap write ++ mark :: r = ys.flatMap write ++ mark :: s) :
    xs = ys ∧ r = s := by
  have hstop (zs : List α) (t : List Char) : Stop (zs.flatMap write ++ mark :: t) := by
    cases zs with
    | nil => exact hmark t
    | cons z zs =>
        rw [List.flatMap_cons, List.append_assoc]
        exact hmore z _
  induction xs generalizing ys with
  | nil =>
      cases ys with
      | nil => exact ⟨rfl, (List.cons.inj h).2⟩
      | cons y ys =>
          -- the mark stands where the first thing of the others would have to start
          rw [List.flatMap_cons, List.append_assoc] at h
          exact absurd h.symm (hy y List.mem_cons_self _ _)
  | cons x xs ih =>
      rw [List.flatMap_cons, List.append_assoc] at h
      cases ys with
      | nil => exact absurd h (hx x List.mem_cons_self _ _)
      | cons y ys =>
          rw [List.flatMap_cons, List.append_assoc] at h
          obtain ⟨rfl, hrest⟩ :=
            happart x List.mem_cons_self y List.mem_cons_self _ _ (hstop xs r) (hstop ys s) h
          obtain ⟨rfl, hrs⟩ := ih
            (fun a ha b hb => happart a (List.mem_cons_of_mem _ ha) b (List.mem_cons_of_mem _ hb))
            (fun a ha => hx a (List.mem_cons_of_mem _ ha))
            (fun b hb => hy b (List.mem_cons_of_mem _ hb)) hrest
          exact ⟨rfl, hrs⟩

/-- Characters that a test is true of end where it is not, if that is where both end. -/
theorem append_inj_of_all {test : Char → Bool} {as bs r s : List Char}
    (ha : ∀ c ∈ as, test c = true) (hb : ∀ c ∈ bs, test c = true)
    (hr : ∀ c ∈ r.head?, test c = false) (hs : ∀ c ∈ s.head?, test c = false)
    (h : as ++ r = bs ++ s) : as = bs ∧ r = s := by
  have htake (cs t : List Char) (hc : ∀ c ∈ cs, test c = true)
      (ht : ∀ c ∈ t.head?, test c = false) : (cs ++ t).takeWhile test = cs := by
    rw [List.takeWhile_append_of_pos hc]
    cases t with
    | nil => simp
    | cons c t => simp [ht c rfl]
  have hsame : as = bs := by rw [← htake as r ha hr, h, htake bs s hb hs]
  subst hsame
  exact ⟨rfl, List.append_cancel_left h⟩

end StubClass.Text
