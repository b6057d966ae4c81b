import StubClass.Benchmark.Place

set_option autoImplicit false

/-! # Places that are written are the places that are read

A place is read with what says nothing left out. What is written for it is read as the same place
(`Place.ofText_text`), so a place that is told is the place that was written to. -/

namespace StubClass.Benchmark

/-! ## Segments -/

theorem segments_slash (cs : List Char) : segments ('/' :: cs) = [] :: segments cs := by
  rw [segments]

theorem segments_ne_nil (cs : List Char) : segments cs ≠ [] := by
  fun_cases segments cs <;> simp

theorem slash_not_mem_segments (cs : List Char) : ∀ name ∈ segments cs, '/' ∉ name := by
  fun_induction segments cs with
  | case1 => simp
  | case2 cs ih => exact List.forall_mem_cons.2 ⟨by simp, ih⟩
  | case3 c cs _ hnil => exact absurd hnil (segments_ne_nil cs)
  | case4 c cs hc name names hcs ih =>
      rw [hcs, List.forall_mem_cons] at ih
      refine List.forall_mem_cons.2 ⟨?_, ih.2⟩
      rw [List.mem_cons, not_or]
      exact ⟨fun h => hc h.symm, ih.1⟩

/-- A name is a segment of its own up to the next slash. -/
theorem segments_append {name : List Char} (hname : '/' ∉ name) (cs : List Char) :
    segments (name ++ '/' :: cs) = name :: segments cs := by
  induction name with
  | nil => exact segments_slash cs
  | cons c name ih =>
      rw [List.mem_cons, not_or] at hname
      rw [List.cons_append, segments, ih hname.2]
      exact fun h => hname.1 h.symm

theorem segments_of_no_slash {name : List Char} (hname : '/' ∉ name) : segments name = [name] := by
  induction name with
  | nil => rfl
  | cons c name ih =>
      rw [List.mem_cons, not_or] at hname
      rw [segments, ih hname.2]
      exact fun h => hname.1 h.symm

namespace Place

theorem segments_joined {names : List (List Char)} (hne : names ≠ [])
    (hnames : ∀ name ∈ names, '/' ∉ name) : segments (joined names) = names := by
  fun_induction joined names with
  | case1 => exact absurd rfl hne
  | case2 name => exact segments_of_no_slash (hnames name List.mem_cons_self)
  | case3 name next rest ih =>
      rw [List.forall_mem_cons] at hnames
      rw [segments_append hnames.1, ih (List.cons_ne_nil _ _) hnames.2]

/-! ## Reading what is written -/

/-- Names that are kept when a place is read: they lead somewhere, and no slash is in them. -/
def AreNames (names : List (List Char)) : Prop :=
  ∀ name ∈ names, isTelling name = true ∧ '/' ∉ name

theorem areNames_ofText (text : String) : AreNames (ofText text).names := by
  intro name hname
  obtain ⟨hmem, htelling⟩ := List.mem_filter.1 hname
  exact ⟨htelling, slash_not_mem_segments _ name hmem⟩

theorem rootOf_cases (cs : List Char) :
    rootOf cs = [] ∨ rootOf cs = ['/'] ∨ rootOf cs = ['/', '/'] := by
  unfold rootOf
  split <;> simp

variable {names : List (List Char)}

/-- Joined names do not start with a slash. -/
theorem AreNames.joined_takeWhile (h : AreNames names) :
    (joined names).takeWhile (· == '/') = [] := by
  have hfirst {name : List Char} (hname : isTelling name = true ∧ '/' ∉ name) (rest : List Char) :
      (name ++ rest).takeWhile (· == '/') = [] := by
    cases name with
    | nil => simp [isTelling] at hname
    | cons c name =>
        have hc : c ≠ '/' := fun h => hname.2 (h ▸ List.mem_cons_self)
        rw [List.cons_append, List.takeWhile_cons_of_neg (by simpa using hc)]
  fun_cases joined names with
  | case1 => rfl
  | case2 name => simpa using hfirst (h name List.mem_cons_self) []
  | case3 name next rest => exact hfirst (h name List.mem_cons_self) _

theorem AreNames.filter_segments (h : AreNames names) :
    (segments (joined names)).filter isTelling = names := by
  cases names with
  | nil => rfl
  | cons name rest =>
      rw [segments_joined (List.cons_ne_nil _ _) fun n hn => (h n hn).2]
      exact List.filter_eq_self.2 fun n hn => (h n hn).1

theorem ofText_ofList (cs : List Char) :
    ofText (String.ofList cs) = ⟨rootOf cs, (segments cs).filter isTelling⟩ := by
  rw [ofText, String.toList_ofList]

/-- A place that may have been read is read from slashes and joined names. -/
theorem ofText_joined {root : List Char} (hroot : root = [] ∨ root = ['/'] ∨ root = ['/', '/'])
    (h : AreNames names) : ofText (String.ofList (root ++ joined names)) = ⟨root, names⟩ := by
  have hslash : isTelling [] = false := rfl
  rw [ofText_ofList]
  rcases hroot with rfl | rfl | rfl
  · rw [List.nil_append, rootOf, h.joined_takeWhile, h.filter_segments]
    rfl
  · simp [segments_slash, rootOf, hslash, h.joined_takeWhile, h.filter_segments]
  · simp [segments_slash, rootOf, hslash, h.joined_takeWhile, h.filter_segments]

/-- **What is written for a place is read as it.** -/
theorem ofText_text (text : String) : ofText (ofText text).text = ofText text := by
  have hjoined := ofText_joined (rootOf_cases text.toList) (areNames_ofText text)
  rw [Place.text]
  split
  case h_1 hnil =>
    -- no slash and no names: a dot, which says nothing either
    change rootOf text.toList ++ joined (ofText text).names = [] at hnil
    rw [hnil] at hjoined
    exact hjoined
  case h_2 => exact hjoined

end Place

end StubClass.Benchmark
