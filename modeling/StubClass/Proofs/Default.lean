import Mathlib.Data.List.Forall2
import Mathlib.Data.List.Pairwise
import StubClass.Default

set_option autoImplicit false

/-! # Equality as an equivalence

Defaults are compared across their types, and dictionaries in any order. Where nothing is in them
that is not a number, no key twice, and nothing that says it is equal to something else, that is an
equivalence, and it keeps what can be hashed. Values without parts are known by one content
(`Value.equalLeaf_iff`), so there is nothing to show for them. For the others symmetry and
transitivity go hand in hand: that every entry of a dictionary is one of another one of the same
size says the converse, since no two keys are equal to one (`exists_match_of_length_le`), and that
takes both for the keys (`IsBalanced`). -/

namespace StubClass

namespace Value

/-! ## Values without parts -/

/-- What a value without parts is known by. -/
inductive Content where
  | number (magnitude : Numeric)
  | text (text : String)
  | null
  | bytes (bs : List UInt8)
  | type (t : BuiltinType)
  | kind (k : ParameterKind)
  | visibility (v : Visibility)

/-- What a value is known by, if it has no parts. -/
def content? : Value → Option Content
  | null => some .null
  | bool b => some (.number (.finite (if b then 1 else 0)))
  | int n => some (.number (.finite (Dyadic.ofIntWithPrec n 0)))
  | float x => some (.number (.ofFloat x))
  | str text | symbol text => some (.text text)
  | bytes bs => some (.bytes bs)
  | list _ | tuple _ | dict _ => none
  | type t => some (.type t)
  | kind k => some (.kind k)
  | visibility v => some (.visibility v)

/-- Whether a value is no number, as a number. -/
def isNaN (v : Value) : Bool :=
  v.numeric? == some .notANumber

theorem same_iff_of_ne {a b : Numeric} (h : a ≠ .notANumber) : a.same b = true ↔ a = b := by
  cases a with
  | notANumber => exact absurd rfl h
  | infinite negative => simp [Numeric.same]
  | finite value => simp [Numeric.same]

/-- A value without parts is equal to what is known by the same. -/
theorem equalLeaf_iff {x : Value} (hleaf : x.isLeaf = true) (hnan : x.isNaN = false) (y : Value) :
    equalLeaf x y = true ↔ x.content? = y.content? := by
  have hnumber (m : Numeric) (hm : x.numeric? = some m) : m ≠ .notANumber := by
    rintro rfl
    simp [isNaN, hm] at hnan
  cases x with
  | list | tuple | dict => cases hleaf
  | bool b =>
      have hsame := fun m => same_iff_of_ne (b := m) (hnumber _ rfl)
      cases y <;> simp [equalLeaf, numeric?, content?, hsame]
  | int n =>
      have hsame := fun m => same_iff_of_ne (b := m) (hnumber _ rfl)
      cases y <;> simp [equalLeaf, numeric?, content?, hsame]
  | float x =>
      have hsame := fun m => same_iff_of_ne (b := m) (hnumber _ rfl)
      cases y <;> simp [equalLeaf, numeric?, content?, hsame]
  | _ => cases y <;> simp [equalLeaf, numeric?, text?, content?]

end Value

/-- A thing that is equal to nothing but itself. -/
def Things.IsPlain {τ : Type} (W : Things τ) (t : τ) : Prop :=
  ∀ y, W.equal t y = true → y = .thing t

namespace Default

variable {τ : Type} {W : Things τ}

/-! ## Names -/

mutual

/-- What cannot be hashed is told by a name. -/
theorem exists_title?_of_unhashablePart? : ∀ {x a : Default τ}, x.unhashablePart? W = some a →
    ∃ title, a.title? W = some title
  | .leaf _ _, _, h => by
      rw [unhashablePart?] at h
      cases h
  | .list _ _, _, h | .dict _ _, _, h => by
      rw [unhashablePart?] at h
      cases h
      exact ⟨_, rfl⟩
  | .tuple xs, _, h => by
      rw [unhashablePart?] at h
      exact exists_title?_of_unhashablePartIn? h
  | .thing t, _, h => by
      rw [unhashablePart?] at h
      split at h
      · cases h
        exact Option.isSome_iff_exists.1 ‹_›
      · cases h

theorem exists_title?_of_unhashablePartIn? : ∀ {xs : List (Default τ)} {a : Default τ},
    unhashablePartIn? W xs = some a → ∃ title, a.title? W = some title
  | [], _, h => nomatch h
  | x :: xs, _, h => by
      rw [unhashablePartIn?, Option.or_eq_some_iff] at h
      rcases h with h | ⟨-, h⟩
      · exact exists_title?_of_unhashablePart? h
      · exact exists_title?_of_unhashablePartIn? h

end

variable [DecidableEq τ] (W)

/-! ## Sound defaults -/

/-- A default in which nothing is no number, no dictionary has equal keys, and nothing says that it
is equal to something else. -/
inductive IsSound : Default τ → Prop where
  | leaf {v : Value} (h : v.isLeaf = true) (hnan : v.isNaN = false) : IsSound (.leaf v h)
  | list {title : String} {xs : List (Default τ)} (h : ∀ x ∈ xs, IsSound x) :
      IsSound (.list title xs)
  | tuple {xs : List (Default τ)} (h : ∀ x ∈ xs, IsSound x) : IsSound (.tuple xs)
  | dict {title : String} {es : List (Default τ × Default τ)} (hkeys : ∀ e ∈ es, IsSound e.1)
      (hvalues : ∀ e ∈ es, IsSound e.2)
      (hapart : es.Pairwise fun e f => e.1.equal W f.1 = false) : IsSound (.dict title es)
  | thing {t : τ} (h : W.IsPlain t) : IsSound (.thing t)

variable {W}

theorem isSound_list_iff {title : String} {xs : List (Default τ)} :
    IsSound W (.list title xs) ↔ ∀ x ∈ xs, IsSound W x := by
  constructor
  · rintro ⟨⟩
    assumption
  · exact .list

theorem isSound_tuple_iff {xs : List (Default τ)} :
    IsSound W (.tuple xs) ↔ ∀ x ∈ xs, IsSound W x := by
  constructor
  · rintro ⟨⟩
    assumption
  · exact .tuple

theorem isSound_dict_iff {title : String} {es : List (Default τ × Default τ)} :
    IsSound W (.dict title es) ↔ (∀ e ∈ es, IsSound W e.1) ∧ (∀ e ∈ es, IsSound W e.2) ∧
      es.Pairwise fun e f => e.1.equal W f.1 = false := by
  constructor
  · intro h
    cases h with
    | dict hkeys hvalues hapart => exact ⟨hkeys, hvalues, hapart⟩
  · exact fun h => .dict h.1 h.2.1 h.2.2

/-! ## Parts -/

theorem equalAll_iff {xs ys : List (Default τ)} :
    equalAll W xs ys = true ↔ List.Forall₂ (fun x y => x.equal W y = true) xs ys := by
  induction xs generalizing ys with
  | nil => cases ys <;> simp [equalAll]
  | cons x xs ih => cases ys <;> simp [equalAll, ih]

variable (W) in
/-- Whether an entry of a dictionary has a key and a value that are equal to those of another. -/
def EqualEntry (e f : Default τ × Default τ) : Prop :=
  e.1.equal W f.1 = true ∧ e.2.equal W f.2 = true

theorem entriesIn_iff {es fs : List (Default τ × Default τ)} :
    entriesIn W es fs = true ↔ ∀ e ∈ es, ∃ f ∈ fs, EqualEntry W e f := by
  induction es with
  | nil => simp [entriesIn]
  | cons e es ih =>
      have hentry : entryIn W e fs = true ↔ ∃ f ∈ fs, EqualEntry W e f := by
        obtain ⟨key, value⟩ := e
        simp only [entryIn, List.any_eq_true, Bool.and_eq_true, EqualEntry]
      rw [entriesIn, Bool.and_eq_true, ih, hentry, List.forall_mem_cons]

/-- What is no thing itself is not equal to a plain one. -/
theorem equal_thing_eq_false {x : Default τ} {t : τ} (ht : W.IsPlain t)
    (hx : ∀ u, x ≠ .thing u) : x.equal W (.thing t) = false := by
  rw [← Bool.not_eq_true]
  intro h
  cases x with
  | thing u => exact hx u rfl
  | _ =>
      rw [equal] at h
      cases ht _ h

theorem equal_leaf_iff {v : Value} {h : v.isLeaf = true} (hnan : v.isNaN = false)
    {y : Default τ} (hy : IsSound W y) :
    (leaf v h).equal W y = true ↔ ∃ w hw, y = .leaf w hw ∧ v.content? = w.content? := by
  cases hy with
  | leaf hw => simp [equal, Value.equalLeaf_iff h hnan, hw]
  | thing ht => simp [equal_thing_eq_false ht]
  | _ => simp [equal]

theorem equal_list_iff {title : String} {xs : List (Default τ)} {y : Default τ}
    (hy : IsSound W y) :
    (list title xs).equal W y = true ↔
      ∃ title' ys, y = .list title' ys ∧
        List.Forall₂ (fun x y => x.equal W y = true) xs ys := by
  cases hy with
  | thing ht => simp [equal_thing_eq_false ht]
  | _ => simp [equal, equalAll_iff]

theorem equal_tuple_iff {xs : List (Default τ)} {y : Default τ} (hy : IsSound W y) :
    (tuple xs).equal W y = true ↔
      ∃ ys, y = .tuple ys ∧ List.Forall₂ (fun x y => x.equal W y = true) xs ys := by
  cases hy with
  | thing ht => simp [equal_thing_eq_false ht]
  | _ => simp [equal, equalAll_iff]

theorem equal_dict_iff {title : String} {es : List (Default τ × Default τ)} {y : Default τ}
    (hy : IsSound W y) :
    (dict title es).equal W y = true ↔
      ∃ title' fs, y = .dict title' fs ∧ es.length = fs.length ∧
        ∀ e ∈ es, ∃ f ∈ fs, EqualEntry W e f := by
  cases hy with
  | thing ht => simp [equal_thing_eq_false ht]
  | _ => simp [equal, entriesIn_iff]

theorem equal_thing_iff {t : τ} (ht : W.IsPlain t) {y : Default τ} :
    (thing t).equal W y = true ↔ y = .thing t := by
  have hsays (h : W.equal t y = true) : y = .thing t := ht y h
  cases y with
  | thing u =>
      simp only [equal, Bool.or_eq_true, beq_iff_eq, thing.injEq] at hsays ⊢
      constructor
      · rintro (rfl | h)
        · rfl
        · exact hsays h
      · rintro rfl
        exact .inl rfl
  | _ =>
      simp only [equal, reduceCtorEq, iff_false] at hsays ⊢
      exact hsays

/-- Of two lists of which the second is no longer, if each of the first has its match in the second
and no two of them have the same one, each of the second has its match in the first. -/
theorem exists_match_of_length_le {α β : Type} {R : α → β → Prop} {xs : List α} {ys : List β}
    (hlength : ys.length ≤ xs.length) (hmatch : ∀ x ∈ xs, ∃ y ∈ ys, R x y)
    (hapart : xs.Pairwise fun x x' => ∀ y ∈ ys, R x y → ¬ R x' y) :
    ∀ y ∈ ys, ∃ x ∈ xs, R x y := by
  induction xs generalizing ys with
  | nil =>
      intro y hy
      rw [List.length_nil, Nat.le_zero, List.length_eq_zero_iff] at hlength
      rw [hlength] at hy
      cases hy
  | cons x xs ih =>
      obtain ⟨y, hy, hxy⟩ := hmatch x List.mem_cons_self
      obtain ⟨before, after, rfl⟩ := List.append_of_mem hy
      obtain ⟨hx, hxs⟩ := List.pairwise_cons.1 hapart
      -- the others have their matches among the others
      have hsub : ∀ z ∈ before ++ after, z ∈ before ++ y :: after := by
        intro z hz
        rcases List.mem_append.1 hz with hz | hz
        · exact List.mem_append_left _ hz
        · exact List.mem_append_right _ (List.mem_cons_of_mem _ hz)
      have hothers : ∀ x' ∈ xs, ∃ z ∈ before ++ after, R x' z := by
        intro x' hx'
        obtain ⟨z, hz, hx'z⟩ := hmatch x' (List.mem_cons_of_mem _ hx')
        refine ⟨z, ?_, hx'z⟩
        rcases List.mem_append.1 hz with hz | hz
        · exact List.mem_append_left _ hz
        · rcases List.mem_cons.1 hz with rfl | hz
          · exact absurd hx'z (hx x' hx' z hy hxy)
          · exact List.mem_append_right _ hz
      have hshorter : (before ++ after).length ≤ xs.length := by
        simp only [List.length_append, List.length_cons] at hlength ⊢
        omega
      intro z hz
      by_cases hzy : z ∈ before ++ after
      · obtain ⟨x', hx', hx'z⟩ := ih hshorter hothers
          (hxs.imp fun h z hz => h z (hsub z hz)) z hzy
        exact ⟨x', List.mem_cons_of_mem _ hx', hx'z⟩
      · obtain rfl : z = y := by
          rcases List.mem_append.1 hz with hz | hz
          · exact absurd (List.mem_append_left _ hz) hzy
          · rcases List.mem_cons.1 hz with rfl | hz
            · rfl
            · exact absurd (List.mem_append_right _ hz) hzy
        exact ⟨x, List.mem_cons_self, hxy⟩

/-! ## The equivalence -/

/-- A sound default is equal to itself. -/
theorem IsSound.equal_self {x : Default τ} (h : IsSound W x) : x.equal W x = true := by
  induction h with
  | leaf h hnan => exact (equal_leaf_iff hnan (.leaf h hnan)).2 ⟨_, h, rfl, rfl⟩
  | list h ih => exact (equal_list_iff (.list h)).2 ⟨_, _, rfl, List.forall₂_same.2 ih⟩
  | tuple h ih => exact (equal_tuple_iff (.tuple h)).2 ⟨_, rfl, List.forall₂_same.2 ih⟩
  | dict hkeys hvalues hapart ihkeys ihvalues =>
      exact (equal_dict_iff (.dict hkeys hvalues hapart)).2
        ⟨_, _, rfl, rfl, fun e he => ⟨e, he, ihkeys e he, ihvalues e he⟩⟩
  | thing h => exact (equal_thing_iff h).2 rfl

variable (W) in
/-- What a default does for symmetry and transitivity among sound ones. -/
structure IsBalanced (a : Default τ) : Prop where
  symm : ∀ {b}, IsSound W b → a.equal W b = true → b.equal W a = true
  trans : ∀ {b c}, IsSound W b → IsSound W c → a.equal W b = true → b.equal W c = true →
    a.equal W c = true

theorem isBalanced_leaf {v : Value} (h : v.isLeaf = true) (hnan : v.isNaN = false) :
    IsBalanced W (.leaf v h) := by
  -- what has the same content is a number as much as the other one is
  refine ⟨fun hb hab => ?_, fun hb hc hab hbc => ?_⟩
  · obtain ⟨w, hw, rfl, hvw⟩ := (equal_leaf_iff hnan hb).1 hab
    obtain ⟨_, hwnan⟩ := hb
    exact (equal_leaf_iff hwnan (.leaf h hnan)).2 ⟨v, h, rfl, hvw.symm⟩
  · obtain ⟨w, hw, rfl, hvw⟩ := (equal_leaf_iff hnan hb).1 hab
    obtain ⟨_, hwnan⟩ := hb
    obtain ⟨u, hu, rfl, hwu⟩ := (equal_leaf_iff hwnan hc).1 hbc
    exact (equal_leaf_iff hnan hc).2 ⟨u, hu, rfl, hvw.trans hwu⟩

theorem forall₂_symm {xs ys : List (Default τ)} (hxs : ∀ x ∈ xs, IsBalanced W x)
    (hys : ∀ y ∈ ys, IsSound W y) (h : List.Forall₂ (fun x y => x.equal W y = true) xs ys) :
    List.Forall₂ (fun x y => x.equal W y = true) ys xs := by
  induction h with
  | nil => exact .nil
  | cons hxy _ ih =>
      rw [List.forall_mem_cons] at hxs hys
      exact .cons (hxs.1.symm hys.1 hxy) (ih hxs.2 hys.2)

theorem forall₂_trans {xs ys zs : List (Default τ)} (hxs : ∀ x ∈ xs, IsBalanced W x)
    (hys : ∀ y ∈ ys, IsSound W y) (hzs : ∀ z ∈ zs, IsSound W z)
    (hxy : List.Forall₂ (fun x y => x.equal W y = true) xs ys)
    (hyz : List.Forall₂ (fun x y => x.equal W y = true) ys zs) :
    List.Forall₂ (fun x y => x.equal W y = true) xs zs := by
  induction hxy generalizing zs with
  | nil => exact hyz
  | cons h _ ih =>
      rw [List.forall_mem_cons] at hxs hys
      cases hyz with
      | cons h' hyz =>
          rw [List.forall_mem_cons] at hzs
          exact .cons (hxs.1.trans hys.1 hzs.1 h h') (ih hxs.2 hys.2 hzs.2 hyz)

theorem isBalanced_list {title : String} {xs : List (Default τ)} (hsound : ∀ x ∈ xs, IsSound W x)
    (hxs : ∀ x ∈ xs, IsBalanced W x) : IsBalanced W (.list title xs) := by
  refine ⟨fun hb h => ?_, fun hb hc hab hbc => ?_⟩
  · obtain ⟨title', ys, rfl, hxy⟩ := (equal_list_iff hb).1 h
    exact (equal_list_iff (.list hsound)).2
      ⟨title, xs, rfl, forall₂_symm hxs (isSound_list_iff.1 hb) hxy⟩
  · obtain ⟨title', ys, rfl, hxy⟩ := (equal_list_iff hb).1 hab
    obtain ⟨title'', zs, rfl, hyz⟩ := (equal_list_iff hc).1 hbc
    exact (equal_list_iff hc).2 ⟨title'', zs, rfl,
      forall₂_trans hxs (isSound_list_iff.1 hb) (isSound_list_iff.1 hc) hxy hyz⟩

theorem isBalanced_tuple {xs : List (Default τ)} (hsound : ∀ x ∈ xs, IsSound W x)
    (hxs : ∀ x ∈ xs, IsBalanced W x) : IsBalanced W (.tuple xs) := by
  refine ⟨fun hb h => ?_, fun hb hc hab hbc => ?_⟩
  · obtain ⟨ys, rfl, hxy⟩ := (equal_tuple_iff hb).1 h
    exact (equal_tuple_iff (.tuple hsound)).2
      ⟨xs, rfl, forall₂_symm hxs (isSound_tuple_iff.1 hb) hxy⟩
  · obtain ⟨ys, rfl, hxy⟩ := (equal_tuple_iff hb).1 hab
    obtain ⟨zs, rfl, hyz⟩ := (equal_tuple_iff hc).1 hbc
    exact (equal_tuple_iff hc).2 ⟨zs, rfl,
      forall₂_trans hxs (isSound_tuple_iff.1 hb) (isSound_tuple_iff.1 hc) hxy hyz⟩

theorem isBalanced_dict {title : String} {es : List (Default τ × Default τ)}
    (hsound : IsSound W (.dict title es)) (hkeys : ∀ e ∈ es, IsBalanced W e.1)
    (hvalues : ∀ e ∈ es, IsBalanced W e.2) : IsBalanced W (.dict title es) := by
  obtain ⟨hekeys, -, hapart⟩ := isSound_dict_iff.1 hsound
  refine ⟨fun hb h => ?_, fun hb hc hab hbc => ?_⟩
  · obtain ⟨title', fs, rfl, hlength, hmatch⟩ := (equal_dict_iff hb).1 h
    obtain ⟨hfkeys, hfvalues, -⟩ := isSound_dict_iff.1 hb
    -- two entries with one match would have equal keys
    have honce : es.Pairwise fun e e' => ∀ f ∈ fs, EqualEntry W e f → ¬ EqualEntry W e' f := by
      refine hapart.imp_of_mem fun {e e'} he he' hne f hf hef he'f => ?_
      have hback := (hkeys e' he').symm (hfkeys f hf) he'f.1
      rw [(hkeys e he).trans (hfkeys f hf) (hekeys e' he') hef.1 hback] at hne
      cases hne
    have hconverse := exists_match_of_length_le (Nat.le_of_eq hlength.symm) hmatch honce
    refine (equal_dict_iff hsound).2 ⟨title, es, rfl, hlength.symm, fun f hf => ?_⟩
    obtain ⟨e, he, hkey, hvalue⟩ := hconverse f hf
    exact ⟨e, he, (hkeys e he).symm (hfkeys f hf) hkey, (hvalues e he).symm (hfvalues f hf) hvalue⟩
  · obtain ⟨title', fs, rfl, hef, hmatch⟩ := (equal_dict_iff hb).1 hab
    obtain ⟨title'', gs, rfl, hfg, hmatch'⟩ := (equal_dict_iff hc).1 hbc
    obtain ⟨hfkeys, hfvalues, -⟩ := isSound_dict_iff.1 hb
    obtain ⟨hgkeys, hgvalues, -⟩ := isSound_dict_iff.1 hc
    refine (equal_dict_iff hc).2 ⟨title'', gs, rfl, hef.trans hfg, fun e he => ?_⟩
    obtain ⟨f, hf, hkey, hvalue⟩ := hmatch e he
    obtain ⟨g, hg, hkey', hvalue'⟩ := hmatch' f hf
    exact ⟨g, hg, (hkeys e he).trans (hfkeys f hf) (hgkeys g hg) hkey hkey',
      (hvalues e he).trans (hfvalues f hf) (hgvalues g hg) hvalue hvalue'⟩

theorem isBalanced_thing {t : τ} (ht : W.IsPlain t) : IsBalanced W (.thing t) := by
  refine ⟨fun _ h => ?_, fun _ _ hab hbc => ?_⟩
  · obtain rfl := (equal_thing_iff ht).1 h
    exact h
  · obtain rfl := (equal_thing_iff ht).1 hab
    exact hbc

theorem IsSound.isBalanced {x : Default τ} (h : IsSound W x) : IsBalanced W x := by
  induction h with
  | leaf h hnan => exact isBalanced_leaf h hnan
  | list h ih => exact isBalanced_list h ih
  | tuple h ih => exact isBalanced_tuple h ih
  | dict hkeys hvalues hapart ihkeys ihvalues =>
      exact isBalanced_dict (.dict hkeys hvalues hapart) ihkeys ihvalues
  | thing h => exact isBalanced_thing h

/-! ## Hashing -/

variable (W) in
/-- Whether two defaults have equal first parts that cannot be hashed, or none. -/
def FailAlike (x y : Option (Default τ)) : Prop :=
  Option.Rel (fun a b => IsSound W a ∧ IsSound W b ∧ a.equal W b = true) x y

theorem failAlike_in {xs ys : List (Default τ)}
    (h : List.Forall₂ (fun x y => FailAlike W (x.unhashablePart? W) (y.unhashablePart? W)) xs ys) :
    FailAlike W (unhashablePartIn? W xs) (unhashablePartIn? W ys) := by
  induction h with
  | nil => exact .none
  | @cons x y _ _ hxy _ ih =>
      rw [unhashablePartIn?, unhashablePartIn?]
      generalize x.unhashablePart? W = part at hxy ⊢
      generalize y.unhashablePart? W = part' at hxy ⊢
      cases hxy with
      | none => exact ih
      | some h => exact .some h

/-- Equal defaults have equal first parts that cannot be hashed. -/
theorem IsSound.failAlike {x y : Default τ} (hx : IsSound W x) (hy : IsSound W y)
    (h : x.equal W y = true) : FailAlike W (x.unhashablePart? W) (y.unhashablePart? W) := by
  induction hx generalizing y with
  | leaf hv hnan =>
      obtain ⟨w, hw, rfl, -⟩ := (equal_leaf_iff hnan hy).1 h
      exact .none
  | list hxs =>
      obtain ⟨title, ys, rfl, -⟩ := (equal_list_iff hy).1 h
      exact .some ⟨.list hxs, hy, h⟩
  | tuple _ ih =>
      obtain ⟨ys, rfl, hxy⟩ := (equal_tuple_iff hy).1 h
      have hys := isSound_tuple_iff.1 hy
      refine failAlike_in (List.forall₂_iff_get.2 ⟨hxy.length_eq, fun i hi hi' => ?_⟩)
      exact ih _ (List.get_mem _ _) (hys _ (List.get_mem _ _)) (hxy.get hi hi')
  | dict hkeys hvalues hapart =>
      obtain ⟨title, fs, rfl, -⟩ := (equal_dict_iff hy).1 h
      exact .some ⟨.dict hkeys hvalues hapart, hy, h⟩
  | thing ht =>
      obtain rfl := (equal_thing_iff ht).1 h
      rw [unhashablePart?]
      split
      · exact .some ⟨hy, hy, h⟩
      · exact .none

/-- Equal defaults are told by a name or not, and by the same one where they are of built-in types.
-/
theorem IsSound.title?_eq {x y : Default τ} (hx : IsSound W x) (hy : IsSound W y)
    (h : x.equal W y = true) :
    (x.title? W = none ↔ y.title? W = none) ∧
      (x.isOfBuiltinType = true → y.isOfBuiltinType = true → x.title? W = y.title? W) := by
  cases hx with
  | leaf hv hnan =>
      obtain ⟨w, hw, rfl, -⟩ := (equal_leaf_iff hnan hy).1 h
      exact ⟨.rfl, fun _ _ => rfl⟩
  | list =>
      obtain ⟨title, ys, rfl, -⟩ := (equal_list_iff hy).1 h
      simp only [title?, isOfBuiltinType, beq_iff_eq, reduceCtorEq, Option.some.injEq, true_and]
      exact fun htitle htitle' => htitle.trans htitle'.symm
  | tuple =>
      obtain ⟨ys, rfl, -⟩ := (equal_tuple_iff hy).1 h
      exact ⟨.rfl, fun _ _ => rfl⟩
  | dict =>
      obtain ⟨title, fs, rfl, -⟩ := (equal_dict_iff hy).1 h
      simp only [title?, isOfBuiltinType, beq_iff_eq, reduceCtorEq, Option.some.injEq, true_and]
      exact fun htitle htitle' => htitle.trans htitle'.symm
  | thing ht =>
      obtain rfl := (equal_thing_iff ht).1 h
      exact ⟨.rfl, fun _ _ => rfl⟩

/-- Equal defaults can be hashed alike: both or neither, and where no derived class is to blame for
either the same one is named. -/
theorem IsSound.unhashable?_eq {x y : Default τ} (hx : IsSound W x) (hy : IsSound W y)
    (h : x.equal W y = true) :
    (x.unhashable? W = none ↔ y.unhashable? W = none) ∧
      ((∀ a, x.unhashablePart? W = some a ∨ y.unhashablePart? W = some a →
          a.isOfBuiltinType = true) → x.unhashable? W = y.unhashable? W) := by
  have halike := hx.failAlike hy h
  unfold unhashable?
  generalize x.unhashablePart? W = part at halike ⊢
  generalize y.unhashablePart? W = part' at halike ⊢
  cases halike with
  | none => exact ⟨.rfl, fun _ => rfl⟩
  | some hparts =>
      obtain ⟨ha, hb, hab⟩ := hparts
      obtain ⟨hnone, hsame⟩ := ha.title?_eq hb hab
      exact ⟨hnone, fun hbuiltin => hsame (hbuiltin _ (.inl rfl)) (hbuiltin _ (.inr rfl))⟩

end Default

/-! ## Values -/

namespace Value

variable {τ : Type}

theorem length_toDefaultEntries (es : List (Value × Value)) :
    (toDefaultEntries es : List (Default τ × Default τ)).length = es.length := by
  induction es with
  | nil => rfl
  | cons e es ih => exact congrArg (· + 1) ih

theorem toDefault_of_isLeaf {v : Value} (h : v.isLeaf = true) :
    v.toDefault = (.leaf v h : Default τ) := by
  cases v with
  | list | tuple | dict => cases h
  | _ => rfl

variable (W : Things τ)

theorem unhashable?_toDefault_of_isLeaf {v : Value} (h : v.isLeaf = true) :
    Default.unhashable? W v.toDefault = v.unhashable? := by
  rw [toDefault_of_isLeaf h, Default.unhashable?, Default.unhashablePart?]
  cases v with
  | list | tuple | dict => cases h
  | _ => simp [unhashable?]

mutual

/-- What cannot be hashed in a value is told by the same name when the value is a default. -/
theorem unhashable?_toDefault : ∀ v : Value,
    Default.unhashable? W v.toDefault = v.unhashable?
  | .list xs => by
      rw [toDefault, unhashable?, Default.unhashable?, Default.unhashablePart?]
      rfl
  | .dict es => by
      rw [toDefault, unhashable?, Default.unhashable?, Default.unhashablePart?]
      rfl
  | .tuple xs => by
      rw [toDefault, unhashable?, Default.unhashable?, Default.unhashablePart?]
      exact unhashableIn?_toDefaults xs
  | .null | .bool _ | .int _ | .float _ | .str _ | .symbol _ | .bytes _ | .type _ | .kind _
  | .visibility _ => unhashable?_toDefault_of_isLeaf W rfl

theorem unhashableIn?_toDefaults : ∀ xs : List Value,
    (Default.unhashablePartIn? W (toDefaults xs)).bind (Default.title? W) = unhashableIn? xs
  | [] => rfl
  | x :: xs => by
      rw [toDefaults, unhashableIn?, Default.unhashablePartIn?, ← unhashable?_toDefault x,
        ← unhashableIn?_toDefaults xs, Default.unhashable?]
      cases hx : (x.toDefault : Default τ).unhashablePart? W with
      | none => rfl
      | some a =>
          obtain ⟨title, htitle⟩ := Default.exists_title?_of_unhashablePart? hx
          rw [Option.some_or, Option.bind_some, htitle, Option.some_or]

end

variable [DecidableEq τ]

theorem equal_toDefault_of_isLeaf {v : Value} (h : v.isLeaf = true) (w : Value) :
    Default.equal W v.toDefault w.toDefault = v.equal w := by
  have hequal : v.equal w = v.equalLeaf w := by
    cases v with
    | list | tuple | dict => cases h
    | _ => rw [equal]
  rw [hequal, toDefault_of_isLeaf h]
  cases hw : w.isLeaf with
  | true => rw [toDefault_of_isLeaf hw, Default.equal]
  | false =>
      -- what has no parts is equal to nothing that has some
      cases w with
      | list | tuple | dict =>
          simp only [toDefault, Default.equal, reduceCtorEq, imp_self, implies_true, Bool.false_eq]
          cases v <;> simp [equalLeaf, numeric?, text?]
      | _ => cases hw

mutual

/-- Values are equal as defaults just when they are as values. -/
theorem equal_toDefault : ∀ v w : Value,
    Default.equal W v.toDefault w.toDefault = v.equal w
  | .list xs, w => by
      cases w <;> simp [toDefault, Default.equal, equal, equalAll_toDefaults xs]
  | .tuple xs, w => by
      cases w <;> simp [toDefault, Default.equal, equal, equalAll_toDefaults xs]
  | .dict es, w => by
      cases w <;> simp [toDefault, Default.equal, equal, entriesIn_toDefaultEntries es,
        length_toDefaultEntries]
  | .null, w | .bool _, w | .int _, w | .float _, w | .str _, w | .symbol _, w | .bytes _, w
  | .type _, w | .kind _, w | .visibility _, w => equal_toDefault_of_isLeaf W rfl w

theorem equalAll_toDefaults : ∀ xs ys : List Value,
    Default.equalAll W (toDefaults xs) (toDefaults ys) = equalAll xs ys
  | [], ys => by cases ys <;> simp [toDefaults, Default.equalAll, equalAll]
  | x :: xs, ys => by
      cases ys <;>
        simp [toDefaults, Default.equalAll, equalAll, equal_toDefault x, equalAll_toDefaults xs]

theorem entriesIn_toDefaultEntries : ∀ es fs : List (Value × Value),
    Default.entriesIn W (toDefaultEntries es) (toDefaultEntries fs) = entriesIn es fs
  | [], fs => by simp [toDefaultEntries, Default.entriesIn, entriesIn]
  | e :: es, fs => by
      simp [toDefaultEntries, Default.entriesIn, entriesIn, entryIn_toDefaultEntry e,
        entriesIn_toDefaultEntries es]

theorem entryIn_toDefaultEntry : ∀ (e : Value × Value) (fs : List (Value × Value)),
    Default.entryIn W (toDefaultEntry e) (toDefaultEntries fs) = entryIn e fs
  | (key, value), fs => by
      simp only [toDefaultEntry, Default.entryIn, entryIn]
      induction fs with
      | nil => rfl
      | cons f fs ih =>
          obtain ⟨key', value'⟩ := f
          simp [toDefaultEntries, toDefaultEntry, equal_toDefault key, equal_toDefault value, ih]

end

end Value

/-! ## Parameters -/

/-- A parameter with a value as its default is compared and hashed as one with a default of any
kind. -/
theorem Parameter.equal_toAny {τ : Type} [DecidableEq τ] (W : Things τ) (p q : Parameter) :
    p.toAny.equal W q.toAny = p.equal q ∧ p.toAny.unhashable? W = p.unhashable? :=
  ⟨congrArg (_ && ·) (Value.equal_toDefault W p.default q.default),
    Value.unhashable?_toDefault W p.default⟩

namespace AnyParameter

section

variable {τ : Type} [DecidableEq τ] {W : Things τ}

/-- **Parameters are compared by an equivalence that keeps what can be hashed.** Let nothing in
their defaults be no number or say that it is equal to something else. Then equality is reflexive,
symmetric and transitive, and of equal parameters both can be hashed or neither. They fail with the
same message as long as what cannot be hashed is no list or dictionary of a derived class. -/
theorem equal_equivalence {p q r : AnyParameter τ} (hp : p.default.IsSound W)
    (hq : q.default.IsSound W) (hr : r.default.IsSound W) :
    p.equal W p = true ∧ (p.equal W q = true → q.equal W p = true) ∧
      (p.equal W q = true → q.equal W r = true → p.equal W r = true) ∧
      (p.equal W q = true →
        (p.unhashable? W = none ↔ q.unhashable? W = none) ∧
          ((∀ a, p.default.unhashablePart? W = some a ∨ q.default.unhashablePart? W = some a →
              a.isOfBuiltinType = true) → p.unhashable? W = q.unhashable? W)) := by
  simp only [AnyParameter.equal, Bool.and_eq_true, beq_iff_eq, Name.same_iff]
  refine ⟨⟨⟨trivial, trivial⟩, hp.equal_self⟩, ?_, ?_, ?_⟩
  · rintro ⟨⟨hkind, hname⟩, hdefault⟩
    exact ⟨⟨hkind.symm, hname.symm⟩, hp.isBalanced.symm hq hdefault⟩
  · rintro ⟨⟨hkind, hname⟩, hdefault⟩ ⟨⟨hkind', hname'⟩, hdefault'⟩
    exact ⟨⟨hkind.trans hkind', hname.trans hname'⟩,
      hp.isBalanced.trans hq hr hdefault hdefault'⟩
  · exact fun h => hp.unhashable?_eq hq h.2

end

/-- The parameter that has a default under a name. -/
def ofDefault {τ : Type} (x : Default τ) : AnyParameter τ :=
  ⟨.keyword, ⟨.ofText "options", by decide⟩, x⟩

/-- With `{1: Names([2.0]), e: (True,)}`, `Options({e: (1.0,), True: [2]})` and
`{1.0: [2], e: (1,)}`, where `e` is a member of an enumeration. -/
theorem equal_equivalence_mixed :
    let W : Things Unit := ⟨fun _ _ => false, fun _ => none⟩
    let p := ofDefault (.dict "dict" [(.leaf (.int 1) rfl, .list "Names" [.leaf (.float 2.0) rfl]),
      (.thing (), .tuple [.leaf (.bool true) rfl])])
    let q := ofDefault (.dict "Options" [(.thing (), .tuple [.leaf (.float 1.0) rfl]),
      (.leaf (.bool true) rfl, .list "list" [.leaf (.int 2) rfl])])
    let r := ofDefault (.dict "dict" [(.leaf (.float 1.0) rfl, .list "list" [.leaf (.int 2) rfl]),
      (.thing (), .tuple [.leaf (.int 1) rfl])])
    p.equal W q = true ∧ q.equal W r = true ∧ q.equal W p = true ∧ p.equal W r = true ∧
      q.unhashable? W ≠ none ∧ r.unhashable? W = some "dict" := by
  intro W p q r
  have hleaf {v : Value} (h : v.isLeaf = true) (hnan : v.isNaN = false) :
      (Default.leaf v h).IsSound W := .leaf h hnan
  have hthing : (Default.thing ()).IsSound W := .thing nofun
  have hone : (Default.leaf (.float 1.0) rfl).IsSound W := hleaf rfl (by decide +kernel)
  have htwo : (Default.leaf (.float 2.0) rfl).IsSound W := hleaf rfl (by decide +kernel)
  have hint (n : Int) : (Default.leaf (.int n) rfl).IsSound W := hleaf rfl rfl
  have htrue : (Default.leaf (.bool true) rfl).IsSound W := hleaf rfl rfl
  have hp : p.default.IsSound W := Default.isSound_dict_iff.2
    ⟨by simp [hint, hthing],
      by simp [Default.isSound_list_iff, Default.isSound_tuple_iff, htwo, htrue],
      by decide +kernel⟩
  have hq : q.default.IsSound W := Default.isSound_dict_iff.2
    ⟨by simp [htrue, hthing],
      by simp [Default.isSound_list_iff, Default.isSound_tuple_iff, hone, hint],
      by decide +kernel⟩
  have hr : r.default.IsSound W := Default.isSound_dict_iff.2
    ⟨by simp [hone, hthing], by simp [Default.isSound_list_iff, Default.isSound_tuple_iff, hint],
      by decide +kernel⟩
  have hpq : p.equal W q = true := by decide +kernel
  have hqr : q.equal W r = true := by decide +kernel
  have hdict : p.unhashable? W = some "dict" := by decide +kernel
  obtain ⟨-, hsymm, htrans, hhashed⟩ := equal_equivalence hp hq hr
  have hpr := htrans hpq hqr
  obtain ⟨-, -, -, hsame⟩ := equal_equivalence hp hr hr
  refine ⟨hpq, hqr, hsymm hpq, hpr, fun hnone => ?_, ?_⟩
  · rw [← (hhashed hpq).1, hdict] at hnone
    cases hnone
  · have hself (title : String) (es : List (Default Unit × Default Unit)) :
        Default.unhashablePart? W (.dict title es) = some (.dict title es) := by
      rw [Default.unhashablePart?]
    rw [← (hsame hpr).2, hdict]
    rintro a (ha | ha)
    · obtain rfl : p.default = a := Option.some.inj ((hself _ _).symm.trans ha)
      rfl
    · obtain rfl : r.default = a := Option.some.inj ((hself _ _).symm.trans ha)
      rfl

/-- Equal parameters need not fail with the same message: `Names([])`, of a class that is derived
from lists, is equal to `[]`. And what says that it is equal to everything ends the equivalence. -/
theorem equal_equivalence_ownClass :
    (¬ ∀ p q : AnyParameter Empty, let W : Things Empty := ⟨nofun, nofun⟩
        p.default.IsSound W → q.default.IsSound W → p.equal W q = true →
          p.unhashable? W = q.unhashable? W) ∧
      let W : Things Unit := ⟨fun _ _ => true, fun _ => some "Meta"⟩
      let five := ofDefault (.leaf (.int 5) rfl)
      let six := ofDefault (.leaf (.int 6) rfl)
      let all := ofDefault (.thing ())
      five.equal W all = true ∧ all.equal W six = true ∧ five.equal W six = false ∧
        five.unhashable? W = none ∧ all.unhashable? W = some "Meta" := by
  refine ⟨fun h => ?_, by decide +kernel⟩
  have hsame := h (ofDefault (.list "list" [])) (ofDefault (.list "Names" []))
    (.list nofun) (.list nofun) (by decide +kernel)
  revert hsame
  decide +kernel

end AnyParameter

end StubClass
