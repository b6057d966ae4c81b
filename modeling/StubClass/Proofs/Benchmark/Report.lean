import StubClass.Benchmark.Report
import StubClass.Proofs.Number.FloatText

set_option autoImplicit false

/-! # The file and the lines of results

A file of results is written in a notation that other programs read: arrays, objects, texts and
numbers, with blanks around them as one likes. It stands for the array of the records of the
measurements, with the very numbers that were measured (`fileText_denotes`). A line of results shows
the number with four places (`Measurement.line_shows`). -/

namespace StubClass.Benchmark

open StubClass.Number (IsDecimalText IsFixedText signed)

/-! ## The notation -/

/-- A document. -/
inductive Document where
  | text (chars : List Char)
  | number (x : Float)
  | array (items : List Document)
  | object (fields : List (List Char × Document))

/-- Whether a character stands for itself in a text. -/
def isSimple (c : Char) : Bool :=
  32 ≤ c.toNat && c != '"' && c != '\\'

/-- Whether a character can stand around everything. -/
def isGap (c : Char) : Bool :=
  c == ' ' || c == '\t' || c == '\n' || c == '\r'

/-- The numerals of a number: the decimals that round to it, with its sign, or a word for what is no
finite number. -/
def IsNumeral (x : Float) (cs : List Char) : Prop :=
  match Number.read x with
  | .notANumber => cs = "NaN".toList
  | .infinite negative => cs = signed negative "Infinity".toList
  | .finite negative m => ∃ ds q, cs = signed negative ds ∧ IsDecimalText ds q ∧ m.RoundsFrom q

mutual

/-- Characters stand for a document. -/
inductive Denotes : List Char → Document → Prop where
  | text {cs : List Char} (h : cs.all isSimple = true) :
      Denotes ('"' :: cs ++ ['"']) (.text cs)
  | number {cs : List Char} {x : Float} (h : IsNumeral x cs) : Denotes cs (.number x)
  | array {cs : List Char} {items : List Document} (h : DenoteItems cs items) :
      Denotes ('[' :: cs ++ [']']) (.array items)
  | object {cs : List Char} {fields : List (List Char × Document)} (h : DenoteFields cs fields) :
      Denotes ('\x7b' :: cs ++ ['\x7d']) (.object fields)
  | gaps {before cs after : List Char} {d : Document} (hbefore : before.all isGap = true)
      (h : Denotes cs d) (hafter : after.all isGap = true) : Denotes (before ++ cs ++ after) d

/-- Characters stand for documents, with commas between them. -/
inductive DenoteItems : List Char → List Document → Prop where
  | last {cs : List Char} {d : Document} (h : Denotes cs d) : DenoteItems cs [d]
  | next {cs rest : List Char} {d : Document} {ds : List Document} (h : Denotes cs d)
      (hrest : DenoteItems rest ds) : DenoteItems (cs ++ ',' :: rest) (d :: ds)

/-- Characters stand for named documents, with commas between them. -/
inductive DenoteFields : List Char → List (List Char × Document) → Prop where
  | last {name cs title : List Char} {d : Document} (hname : Denotes name (.text title))
      (h : Denotes cs d) : DenoteFields (name ++ ':' :: cs) [(title, d)]
  | next {name cs rest title : List Char} {d : Document} {ds : List (List Char × Document)}
      (hname : Denotes name (.text title)) (h : Denotes cs d) (hrest : DenoteFields rest ds) :
      DenoteFields (name ++ ':' :: cs ++ ',' :: rest) ((title, d) :: ds)

end

/-! ## The file -/

/-- The record of a measurement: its name, its unit and its value. -/
def Measurement.record (m : Measurement) : Document :=
  .object [("name".toList, .text m.name.toList), ("unit".toList, .text "seconds".toList),
    ("value".toList, .number m.seconds)]

theorem isNumeral_fileNumber (x : Float) : IsNumeral x (fileNumber x).toList := by
  cases h : Number.read x with
  | notANumber => simp [IsNumeral, fileNumber, h]
  | infinite negative => cases negative <;> simp [IsNumeral, fileNumber, h, signed]
  | finite negative m =>
      simp only [IsNumeral, fileNumber, h, Number.floatText, String.toList_ofList]
      exact Number.floatChars_finite h

theorem Denotes.behind {cs : List Char} {d : Document} (h : Denotes cs d) {before : List Char}
    (hbefore : before.all isGap = true) : Denotes (before ++ cs) d := by
  simpa using gaps hbefore h List.all_nil

/-- The name of a field, on a line of its own. -/
theorem title_denotes (title : List Char) (h : title.all isSimple = true) :
    Denotes ("\n    ".toList ++ ('"' :: title ++ ['"'])) (.text title) :=
  (Denotes.text h).behind (by decide)

theorem Measurement.object_denotes {m : Measurement}
    (hname : m.name.toList.all isSimple = true) : Denotes m.object.toList m.record := by
  have hspace : [' '].all isGap = true := by decide
  have hindent : "  ".toList.all isGap = true := by decide
  have hend : "\n  ".toList.all isGap = true := by decide
  have hname := (Denotes.text hname).behind hspace
  have hunit := (Denotes.text (by decide : "seconds".toList.all isSimple = true)).behind hspace
  have hvalue := (Denotes.number (isNumeral_fileNumber m.seconds)).gaps hspace hend
  have hfields := DenoteFields.next (title_denotes "name".toList (by decide)) hname
    (.next (title_denotes "unit".toList (by decide)) hunit
      (.last (title_denotes "value".toList (by decide)) hvalue))
  simpa [object, field, record, unit] using (Denotes.object hfields).behind hindent

/-- Objects with commas and line breaks between them are the items of the array of their records. -/
theorem denoteItems_objects {ms : List Measurement} (hms : ms ≠ [])
    (hnames : ∀ m ∈ ms, m.name.toList.all isSimple = true) :
    DenoteItems
      (['\n'] ++ (String.intercalate ",\n" (ms.map Measurement.object)).toList ++ ['\n'])
      (ms.map Measurement.record) := by
  induction ms with
  | nil => exact absurd rfl hms
  | cons m ms ih =>
      rw [List.forall_mem_cons] at hnames
      have hobject := Measurement.object_denotes hnames.1
      have hbreak : ['\n'].all isGap = true := by decide
      cases ms with
      | nil => simpa using DenoteItems.last (hobject.gaps hbreak hbreak)
      | cons next rest =>
          have hrest := ih (List.cons_ne_nil _ _) hnames.2
          simpa [String.intercalate_cons_cons] using
            DenoteItems.next (hobject.behind hbreak) hrest

/-- **The file of results is an array of records.** -/
theorem fileText_denotes {ms : List Measurement} (hms : ms ≠ [])
    (hnames : ∀ m ∈ ms, m.name.toList.all isSimple = true) :
    Denotes (fileText ms).toList (.array (ms.map Measurement.record)) := by
  simpa [fileText] using Denotes.array (denoteItems_objects hms hnames)

/-! ## The lines -/

/-- Whether characters show a number with four places: the nearest decimal, with its sign, or a word
for what is no finite number. -/
def IsShown (x : Float) (cs : List Char) : Prop :=
  match Number.read x with
  | .notANumber => cs = "nan".toList
  | .infinite negative => cs = signed negative "inf".toList
  | .finite negative m => ∃ ds, cs = signed negative ds ∧ IsFixedText 4 m ds

/-- Whether a line lists a measurement: its name, its value and its unit. -/
def Measurement.IsListed (m : Measurement) (line : String) : Prop :=
  ∃ value : String, line = "  " ++ m.name ++ ": " ++ value ++ " seconds\n" ∧
    IsShown m.seconds value.toList

theorem isShown_fixedText (x : Float) : IsShown x (Number.fixedText 4 x).toList := by
  unfold IsShown
  split
  case h_1 h => rw [Number.fixedText, h]
  case h_2 h => rw [Number.fixedText, h, String.toList_ofList]
  case h_3 h => exact Number.fixedText_finite (by decide) h

theorem Measurement.line_shows (m : Measurement) : m.IsListed (m.line ++ "\n") := by
  refine ⟨Number.fixedText 4 m.seconds, ?_, isShown_fixedText _⟩
  rw [line, unit, String.append_assoc, String.append_assoc]
  rfl

end StubClass.Benchmark
