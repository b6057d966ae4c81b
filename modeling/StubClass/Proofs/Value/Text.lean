import StubClass.Proofs.Text.Quoted
import StubClass.Value.Text

set_option autoImplicit false

/-! # Literal forms show their values

The values that are put together from nothing, truth values, integers, texts, symbols and bytes are
shown by their literal form, to any depth. The first character tells the type, and behind it the
form ends by itself: quotes and brackets are closed, and an integer goes on up to the first
character that is no digit (`chars_tellsApart`). -/

namespace StubClass.Value

open Text

/-! ## Literals -/

/-- A literal: nothing, a truth value, an integer, a text, a symbol or bytes, or a list, a tuple or
a dictionary of literals. -/
inductive IsLiteral : Value → Prop
  | null : IsLiteral null
  | bool (b : Bool) : IsLiteral (bool b)
  | int (n : Int) : IsLiteral (int n)
  | str (text : String) : IsLiteral (str text)
  | symbol (text : String) : IsLiteral (symbol text)
  | bytes (bs : List UInt8) : IsLiteral (bytes bs)
  | list (xs : List Value) (parts : ∀ x ∈ xs, IsLiteral x) : IsLiteral (list xs)
  | tuple (xs : List Value) (parts : ∀ x ∈ xs, IsLiteral x) : IsLiteral (tuple xs)
  | dict (es : List (Value × Value)) (keys : ∀ e ∈ es, IsLiteral e.1)
      (values : ∀ e ∈ es, IsLiteral e.2) : IsLiteral (dict es)

/-- What follows a literal: anything but one more digit. -/
def NoDigit (r : List Char) : Prop :=
  ∀ c ∈ r.head?, c.isDigit = false

theorem noDigit_cons {c : Char} (h : c.isDigit = false) (r : List Char) : NoDigit (c :: r) := by
  rintro _ ⟨⟩
  exact h

/-! ## The first character -/

/-- The type of the literals that start with a character. -/
def typeOfFirst? : Char → Option BuiltinType
  | 'N' => some .none
  | 'T' | 'F' => some .bool
  | '\'' | '"' => some .str
  | 'S' => some .symbol
  | 'b' => some .bytes
  | '[' => some .list
  | '(' => some .tuple
  | '\x7b' => some .dict
  | c => if c = '-' ∨ c.isDigit then some .int else none

theorem typeOfFirst?_isDigit {c : Char} (h : c.isDigit) : typeOfFirst? c = some .int := by
  unfold typeOfFirst?
  split <;> first | (revert h; decide) | exact if_pos (.inr h)

theorem toDigits_first (n : Nat) : ∃ c cs, Nat.toDigits 10 n = c :: cs ∧ c.isDigit := by
  obtain ⟨c, cs, h⟩ := List.exists_cons_of_ne_nil (Nat.toDigits_ne_nil (b := 10) (n := n))
  exact ⟨c, cs, h, Nat.isDigit_of_mem_toDigits (by decide) (by decide) (h ▸ List.mem_cons_self)⟩

theorem intChars_first (n : Int) : ∃ c cs, intChars n = c :: cs ∧ typeOfFirst? c = some .int := by
  cases n with
  | ofNat n =>
      obtain ⟨c, cs, h, hc⟩ := toDigits_first n
      exact ⟨c, cs, h, typeOfFirst?_isDigit hc⟩
  | negSucc n => exact ⟨'-', _, rfl, by decide⟩

theorem quoted_first (cs : List Char) :
    ∃ c rest, quoted cs = c :: rest ∧ typeOfFirst? c = some .str := by
  refine ⟨_, _, rfl, ?_⟩
  rcases quoteMark_cases cs with h | h <;> rw [h] <;> decide

/-- The first character of a literal tells its type. -/
theorem IsLiteral.first {v : Value} (hv : IsLiteral v) :
    ∃ c cs, v.chars = c :: cs ∧ typeOfFirst? c = some v.builtinType := by
  cases hv with
  | null => exact ⟨'N', _, rfl, rfl⟩
  | bool b => cases b <;> exact ⟨_, _, rfl, rfl⟩
  | int n => exact intChars_first n
  | str text => exact quoted_first text.toList
  | symbol text => exact ⟨'S', _, rfl, rfl⟩
  | tuple xs =>
      have hfirst (parts : List (List Char)) : ∃ cs, tupleChars parts = '(' :: cs := by
        unfold tupleChars
        split <;> exact ⟨_, rfl⟩
      obtain ⟨cs, h⟩ := hfirst (charsOfAll xs)
      exact ⟨'(', cs, h, rfl⟩
  | bytes bs => exact ⟨'b', _, rfl, rfl⟩
  | list xs => exact ⟨'[', _, rfl, rfl⟩
  | dict es => exact ⟨'\x7b', _, rfl, rfl⟩

/-- A literal does not start with what no literal starts with. -/
theorem IsLiteral.startsOtherwise {v : Value} (hv : IsLiteral v) {c : Char}
    (hc : typeOfFirst? c = none) : StartsOtherwise chars c v := by
  obtain ⟨d, cs, hchars, htype⟩ := hv.first
  intro r s h
  rw [hchars] at h
  obtain rfl : d = c := (List.cons.inj h).1
  rw [hc] at htype
  cases htype

/-- Literals of different types are told apart by the first character. -/
theorem IsLiteral.tellsApart_of_type {v w : Value} (hv : IsLiteral v) (hw : IsLiteral w)
    {Stop : List Char → Prop} (h : v.builtinType = w.builtinType → TellsApart chars Stop v w) :
    TellsApart chars Stop v w := by
  intro r s hr hs heq
  obtain ⟨c, cs, hvchars, hvtype⟩ := hv.first
  obtain ⟨d, ds, hwchars, hwtype⟩ := hw.first
  have hfirst : c = d := by
    rw [hvchars, hwchars] at heq
    exact (List.cons.inj heq).1
  have htype : v.builtinType = w.builtinType := by
    rw [hfirst, hwtype] at hvtype
    exact (Option.some.inj hvtype).symm
  exact h htype r s hr hs heq

/-! ## Marked texts -/

/-- Between two fixed texts a quoted text is told apart as well. -/
theorem quoted_inj_between (start close : List Char) {cs ds r s : List Char}
    (h : start ++ (quoted cs ++ close) ++ r = start ++ (quoted ds ++ close) ++ s) :
    cs = ds ∧ r = s := by
  rw [List.append_assoc, List.append_assoc, List.append_assoc, List.append_assoc] at h
  obtain ⟨hsame, hrest⟩ := quoted_tellsApart _ _ _ _ trivial trivial (List.append_cancel_left h)
  exact ⟨hsame, List.append_cancel_left hrest⟩

/-! ## Integers -/

theorem toDigits_tellsApart (n m : Nat) : TellsApart (Nat.toDigits 10) NoDigit n m := by
  intro r s hr hs h
  have hdigit (k : Nat) : ∀ c ∈ Nat.toDigits 10 k, c.isDigit = true :=
    fun c hc => Nat.isDigit_of_mem_toDigits (by decide) (by decide) hc
  obtain ⟨hdigits, hrest⟩ := append_inj_of_all (hdigit n) (hdigit m) hr hs h
  refine ⟨?_, hrest⟩
  -- a number is read back from its digits
  rw [← Nat.ofDigitChars_ten_toDigits (n := n), hdigits, Nat.ofDigitChars_ten_toDigits]

theorem toDigits_ne_minus (n : Nat) : StartsOtherwise (Nat.toDigits 10) '-' n := by
  intro r s h
  obtain ⟨c, cs, hdigits, hc⟩ := toDigits_first n
  rw [hdigits] at h
  obtain rfl : c = '-' := (List.cons.inj h).1
  exact absurd hc (by decide)

theorem intChars_tellsApart (n m : Int) : TellsApart intChars NoDigit n m := by
  intro r s hr hs h
  cases n with
  | ofNat n =>
      cases m with
      | ofNat m =>
          obtain ⟨rfl, hrest⟩ := toDigits_tellsApart n m r s hr hs h
          exact ⟨rfl, hrest⟩
      | negSucc m => exact absurd h (toDigits_ne_minus n _ _)
  | negSucc n =>
      cases m with
      | ofNat m => exact absurd h.symm (toDigits_ne_minus m _ _)
      | negSucc m =>
          obtain ⟨hsame, hrest⟩ := toDigits_tellsApart _ _ r s hr hs (List.cons.inj h).2
          exact ⟨by rw [Nat.succ.inj hsame], hrest⟩

/-! ## Collections -/

section Collections

variable {α : Type} {write : α → List Char} {Stop : List Char → Prop} {close : Char}
  {xs ys : List α}

/-- A part behind another one, with the comma and the space in front of it. -/
def behindComma (write : α → List Char) (x : α) : List Char :=
  ',' :: ' ' :: write x

theorem commaSeparated_cons (x : α) (xs : List α) :
    commaSeparated ((x :: xs).map write) = write x ++ xs.flatMap (behindComma write) := by
  induction xs generalizing x with
  | nil => simp [commaSeparated]
  | cons y ys ih =>
      rw [List.map_cons, List.map_cons, commaSeparated, ← List.map_cons, ih y, List.flatMap_cons]
      rfl

theorem stop_behind (hcomma : ∀ r, Stop (',' :: r)) (hclose : ∀ r, Stop (close :: r)) (xs : List α)
    (r : List Char) : Stop (xs.flatMap (behindComma write) ++ close :: r) := by
  cases xs with
  | nil => exact hclose r
  | cons x xs => exact hcomma _

/-- Further parts of a collection are told apart if its parts are. -/
theorem behindComma_tellsApart (hcomma : ∀ r, Stop (',' :: r)) (hclose : ∀ r, Stop (close :: r))
    (hne : close ≠ ',') (happart : ∀ x ∈ xs, ∀ y ∈ ys, TellsApart write Stop x y) {r s : List Char}
    (h : xs.flatMap (behindComma write) ++ close :: r
      = ys.flatMap (behindComma write) ++ close :: s) : xs = ys ∧ r = s :=
  flatMap_tellsApart Stop hclose (fun _ _ => hcomma _)
    (fun x hx y hy r s hr hs heq =>
      happart x hx y hy r s hr hs (List.cons.inj (List.cons.inj heq).2).2)
    (fun _ _ _ _ heq => hne (List.cons.inj heq).1.symm)
    (fun _ _ _ _ heq => hne (List.cons.inj heq).1.symm) h

/-- The parts of a collection are told apart if each of them is and none starts with the closing
mark. -/
theorem commaSeparated_tellsApart (hcomma : ∀ r, Stop (',' :: r)) (hclose : ∀ r, Stop (close :: r))
    (hne : close ≠ ',') (happart : ∀ x ∈ xs, ∀ y ∈ ys, TellsApart write Stop x y)
    (hx : ∀ x ∈ xs, StartsOtherwise write close x) (hy : ∀ y ∈ ys, StartsOtherwise write close y)
    {r s : List Char} (h : commaSeparated (xs.map write) ++ close :: r
      = commaSeparated (ys.map write) ++ close :: s) : xs = ys ∧ r = s := by
  cases xs with
  | nil =>
      cases ys with
      | nil => exact ⟨rfl, (List.cons.inj h).2⟩
      | cons y ys =>
          rw [commaSeparated_cons, List.append_assoc] at h
          exact absurd h.symm (hy y List.mem_cons_self _ _)
  | cons x xs =>
      cases ys with
      | nil =>
          rw [commaSeparated_cons, List.append_assoc] at h
          exact absurd h (hx x List.mem_cons_self _ _)
      | cons y ys =>
          rw [commaSeparated_cons, commaSeparated_cons, List.append_assoc, List.append_assoc] at h
          obtain ⟨rfl, hrest⟩ := happart x List.mem_cons_self y List.mem_cons_self _ _
            (stop_behind hcomma hclose xs r) (stop_behind hcomma hclose ys s) h
          obtain ⟨rfl, hrs⟩ := behindComma_tellsApart hcomma hclose hne
            (fun a ha b hb => happart a (List.mem_cons_of_mem _ ha) b (List.mem_cons_of_mem _ hb))
            hrest
          exact ⟨rfl, hrs⟩

/-- A tuple of one part is told apart from every other tuple by the comma behind it. -/
theorem single_ne {x : α} (hcomma : ∀ r, Stop (',' :: r)) (hclose : ∀ r, Stop (')' :: r))
    (happart : ∀ y ∈ ys, TellsApart write Stop x y) (hx : StartsOtherwise write ')' x)
    (hmany : ∀ y, ys ≠ [y]) (r s : List Char) :
    write x ++ ',' :: ')' :: r ≠ commaSeparated (ys.map write) ++ ')' :: s := by
  intro h
  cases ys with
  | nil => exact hx _ _ h
  | cons y ys =>
      rw [commaSeparated_cons, List.append_assoc] at h
      obtain ⟨-, hrest⟩ := happart y List.mem_cons_self _ _ (hcomma _)
        (stop_behind hcomma hclose ys s) h
      cases ys with
      | nil => exact hmany y rfl
      | cons z zs => exact absurd (List.cons.inj (List.cons.inj hrest).2).1 (by decide)

theorem tupleChars_of_many (hmany : ∀ x, xs ≠ [x]) :
    tupleChars (xs.map write) = '(' :: (commaSeparated (xs.map write) ++ [')']) := by
  unfold tupleChars
  split
  · next part hpart =>
      obtain ⟨x, rfl, -⟩ := List.map_eq_singleton_iff.1 hpart
      exact absurd rfl (hmany x)
  · rfl

/-- The parts of a tuple are told apart if each of them is and none starts with the closing mark. -/
theorem tupleChars_tellsApart (hcomma : ∀ r, Stop (',' :: r)) (hclose : ∀ r, Stop (')' :: r))
    (happart : ∀ x ∈ xs, ∀ y ∈ ys, TellsApart write Stop x y)
    (hx : ∀ x ∈ xs, StartsOtherwise write ')' x) (hy : ∀ y ∈ ys, StartsOtherwise write ')' y)
    {r s : List Char} (h : tupleChars (xs.map write) ++ r = tupleChars (ys.map write) ++ s) :
    xs = ys ∧ r = s := by
  have hone (x : α) : tupleChars ([x].map write) = '(' :: (write x ++ [',', ')']) := rfl
  -- a tuple of one part has a comma behind it, so it is compared apart from the others
  by_cases hxs : ∃ x, xs = [x]
  · obtain ⟨x, rfl⟩ := hxs
    by_cases hys : ∃ y, ys = [y]
    · obtain ⟨y, rfl⟩ := hys
      simp only [hone, List.cons_append, List.append_assoc, List.nil_append] at h
      obtain ⟨rfl, hrest⟩ := happart x (by simp) y (by simp) _ _ (hcomma _) (hcomma _)
        (List.cons.inj h).2
      exact ⟨rfl, (List.cons.inj (List.cons.inj hrest).2).2⟩
    · rw [hone, tupleChars_of_many fun y hy => hys ⟨y, hy⟩] at h
      simp only [List.cons_append, List.append_assoc, List.nil_append] at h
      exact absurd (List.cons.inj h).2 (single_ne hcomma hclose (happart x (by simp))
        (hx x (by simp)) (fun y hy => hys ⟨y, hy⟩) _ _)
  · rw [tupleChars_of_many fun x hx => hxs ⟨x, hx⟩] at h
    by_cases hys : ∃ y, ys = [y]
    · obtain ⟨y, rfl⟩ := hys
      rw [hone] at h
      simp only [List.cons_append, List.append_assoc, List.nil_append] at h
      exact absurd (List.cons.inj h).2.symm (single_ne hcomma hclose
        (fun x hx => (happart x hx y (by simp)).symm) (hy y (by simp))
        (fun x hx => hxs ⟨x, hx⟩) _ _)
    · rw [tupleChars_of_many fun y hy => hys ⟨y, hy⟩] at h
      simp only [List.cons_append, List.append_assoc, List.nil_append] at h
      exact commaSeparated_tellsApart hcomma hclose (by decide) happart hx hy (List.cons.inj h).2

end Collections

theorem charsOfAll_eq_map (xs : List Value) : charsOfAll xs = xs.map chars := by
  induction xs with
  | nil => rfl
  | cons x xs ih => rw [charsOfAll, ih, List.map_cons]

theorem chars_list (xs : List Value) :
    (list xs).chars = '[' :: (commaSeparated (xs.map chars) ++ [']']) := by
  rw [← charsOfAll_eq_map]
  rfl

theorem chars_tuple (xs : List Value) : (tuple xs).chars = tupleChars (xs.map chars) := by
  rw [← charsOfAll_eq_map]
  rfl

theorem charsOfEntries_eq_map (es : List (Value × Value)) :
    charsOfEntries es = es.map charsOfEntry := by
  induction es with
  | nil => rfl
  | cons e es ih => rw [charsOfEntries, ih, List.map_cons]

theorem chars_dict (es : List (Value × Value)) :
    (dict es).chars = '\x7b' :: (commaSeparated (es.map charsOfEntry) ++ ['\x7d']) := by
  rw [← charsOfEntries_eq_map]
  rfl

theorem charsOfEntry_startsOtherwise {e : Value × Value} (hkey : IsLiteral e.1) {c : Char}
    (hc : typeOfFirst? c = none) : StartsOtherwise charsOfEntry c e := by
  obtain ⟨key, value⟩ := e
  intro r s h
  rw [charsOfEntry, List.append_assoc] at h
  exact hkey.startsOtherwise hc _ _ h

/-- An entry is told apart if its key and its value are. -/
theorem charsOfEntry_tellsApart {d e : Value × Value} (hkey : TellsApart chars NoDigit d.1 e.1)
    (hvalue : TellsApart chars NoDigit d.2 e.2) : TellsApart charsOfEntry NoDigit d e := by
  obtain ⟨key, value⟩ := d
  obtain ⟨key', value'⟩ := e
  intro r s hr hs h
  simp only [charsOfEntry, List.append_assoc, List.cons_append] at h
  obtain ⟨hkeys, hrest⟩ :=
    hkey _ _ (noDigit_cons (by decide) _) (noDigit_cons (by decide) _) h
  obtain ⟨hvalues, hrs⟩ := hvalue r s hr hs (List.cons.inj (List.cons.inj hrest).2).2
  exact ⟨Prod.ext hkeys hvalues, hrs⟩

/-! ## All literals -/

theorem bool_tellsApart (b c : Bool) : TellsApart chars NoDigit (bool b) (bool c) := by
  intro r s _ _ h
  have hfirst : (if b then 'T' else 'F') = if c then 'T' else 'F' := by
    cases b <;> cases c <;> exact (List.cons.inj h).1
  obtain rfl : b = c := by revert hfirst; cases b <;> cases c <;> decide
  exact ⟨rfl, List.append_cancel_left h⟩

section Parts

variable {xs ys : List Value} {es fs : List (Value × Value)}

theorem noDigit_comma (r : List Char) : NoDigit (',' :: r) :=
  noDigit_cons (by decide) r

theorem list_tellsApart (happart : ∀ x ∈ xs, ∀ y ∈ ys, TellsApart chars NoDigit x y)
    (hxs : ∀ x ∈ xs, IsLiteral x) (hys : ∀ y ∈ ys, IsLiteral y) :
    TellsApart chars NoDigit (list xs) (list ys) := by
  intro r s _ _ h
  simp only [chars_list, List.cons_append, List.append_assoc, List.nil_append] at h
  obtain ⟨rfl, hrest⟩ := commaSeparated_tellsApart noDigit_comma (noDigit_cons (by decide))
    (by decide) happart (fun x hx => (hxs x hx).startsOtherwise (by decide))
    (fun y hy => (hys y hy).startsOtherwise (by decide)) (List.cons.inj h).2
  exact ⟨rfl, hrest⟩

theorem tuple_tellsApart (happart : ∀ x ∈ xs, ∀ y ∈ ys, TellsApart chars NoDigit x y)
    (hxs : ∀ x ∈ xs, IsLiteral x) (hys : ∀ y ∈ ys, IsLiteral y) :
    TellsApart chars NoDigit (tuple xs) (tuple ys) := by
  intro r s _ _ h
  rw [chars_tuple, chars_tuple] at h
  obtain ⟨rfl, hrest⟩ := tupleChars_tellsApart noDigit_comma (noDigit_cons (by decide)) happart
    (fun x hx => (hxs x hx).startsOtherwise (by decide))
    (fun y hy => (hys y hy).startsOtherwise (by decide)) h
  exact ⟨rfl, hrest⟩

theorem dict_tellsApart
    (hkeys : ∀ d ∈ es, ∀ e ∈ fs, TellsApart chars NoDigit d.1 e.1)
    (hvalues : ∀ d ∈ es, ∀ e ∈ fs, TellsApart chars NoDigit d.2 e.2)
    (hes : ∀ d ∈ es, IsLiteral d.1) (hfs : ∀ e ∈ fs, IsLiteral e.1) :
    TellsApart chars NoDigit (dict es) (dict fs) := by
  intro r s _ _ h
  simp only [chars_dict, List.cons_append, List.append_assoc, List.nil_append] at h
  obtain ⟨rfl, hrest⟩ := commaSeparated_tellsApart noDigit_comma (noDigit_cons (by decide))
    (by decide) (fun d hd e he => charsOfEntry_tellsApart (hkeys d hd e he) (hvalues d hd e he))
    (fun d hd => charsOfEntry_startsOtherwise (hes d hd) (by decide))
    (fun e he => charsOfEntry_startsOtherwise (hfs e he) (by decide)) (List.cons.inj h).2
  exact ⟨rfl, hrest⟩

end Parts

/-- **Literals are told apart by their literal form, if no digit follows.** -/
theorem chars_tellsApart {v w : Value} (hv : IsLiteral v) (hw : IsLiteral w) :
    TellsApart chars NoDigit v w := by
  -- On the one value by induction, on the other one by its type, which the first character tells.
  induction hv generalizing w with
  | null =>
      refine IsLiteral.null.tellsApart_of_type hw fun htype => ?_
      cases hw with
      | null => exact fun r s _ _ h => ⟨rfl, List.append_cancel_left h⟩
      | _ => cases htype
  | bool b =>
      refine (IsLiteral.bool b).tellsApart_of_type hw fun htype => ?_
      cases hw with
      | bool c => exact bool_tellsApart b c
      | _ => cases htype
  | int n =>
      refine (IsLiteral.int n).tellsApart_of_type hw fun htype => ?_
      cases hw with
      | int m =>
          intro r s hr hs h
          obtain ⟨rfl, hrest⟩ := intChars_tellsApart n m r s hr hs h
          exact ⟨rfl, hrest⟩
      | _ => cases htype
  | str text =>
      refine (IsLiteral.str text).tellsApart_of_type hw fun htype => ?_
      cases hw with
      | str other =>
          intro r s _ _ h
          obtain ⟨hsame, hrest⟩ := quoted_tellsApart _ _ r s trivial trivial h
          exact ⟨congrArg str (String.toList_inj.1 hsame), hrest⟩
      | _ => cases htype
  | symbol text =>
      refine (IsLiteral.symbol text).tellsApart_of_type hw fun htype => ?_
      cases hw with
      | symbol other =>
          intro r s _ _ h
          obtain ⟨hsame, hrest⟩ := quoted_inj_between _ _ h
          exact ⟨congrArg symbol (String.toList_inj.1 hsame), hrest⟩
      | _ => cases htype
  | bytes bs =>
      refine (IsLiteral.bytes bs).tellsApart_of_type hw fun htype => ?_
      cases hw with
      | bytes cs =>
          intro r s _ _ h
          obtain ⟨rfl, hrest⟩ := quotedBytes_tellsApart bs cs r s trivial trivial
            (List.cons.inj h).2
          exact ⟨rfl, hrest⟩
      | _ => cases htype
  | list xs hxs ih =>
      refine (IsLiteral.list xs hxs).tellsApart_of_type hw fun htype => ?_
      cases hw with
      | list ys hys => exact list_tellsApart (fun x hx y hy => ih x hx (hys y hy)) hxs hys
      | _ => cases htype
  | tuple xs hxs ih =>
      refine (IsLiteral.tuple xs hxs).tellsApart_of_type hw fun htype => ?_
      cases hw with
      | tuple ys hys => exact tuple_tellsApart (fun x hx y hy => ih x hx (hys y hy)) hxs hys
      | _ => cases htype
  | dict es hkeys hvalues ihkeys ihvalues =>
      refine (IsLiteral.dict es hkeys hvalues).tellsApart_of_type hw fun htype => ?_
      cases hw with
      | dict fs hfkeys hfvalues =>
          exact dict_tellsApart (fun d hd e he => ihkeys d hd (hfkeys e he))
            (fun d hd e he => ihvalues d hd (hfvalues e he)) hkeys hfkeys
      | _ => cases htype

end StubClass.Value
