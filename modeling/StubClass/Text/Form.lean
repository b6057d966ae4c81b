import StubClass.Number.Numeral

set_option autoImplicit false

/-! # Forms of texts

How a value is laid out in a text: a filling character, the side that it goes to, a sign, a width, a
mark between groups of digits, a precision, and a letter for the notation. -/

namespace StubClass.Text

/-- A form. -/
structure Form where
  fill : Char
  /-- One of `<`, `>`, `^` and `=`. -/
  align : Char
  sign : Option Char
  /-- Whether a zero loses its minus sign. -/
  plainZero : Bool
  alternate : Bool
  width : Nat
  grouping : Option Char
  precision : Option Nat
  letter : Option Char
deriving Repr

/-- Why something is no form. -/
inductive FormFault where
  | invalid
  | tooManyDigits
  | noPrecision
  | twoGroupings
  | wrongGrouping (grouping letter : Char)
deriving Repr, DecidableEq

/-- A letter as it is shown where it is refused: by its number, unless it is a mark of ASCII. -/
def shownLetter (c : Char) : String :=
  if 32 < c.toNat && c.toNat < 128 then c.toString
  else "\\x" ++ String.ofList (Nat.toDigits 16 c.toNat)

/-- The wording of a fault, for a form and the type of what is laid out. -/
def FormFault.message (form typeName : String) : FormFault → String
  | invalid => "Invalid format specifier '" ++ form ++ "' for object of type '" ++ typeName ++ "'"
  | tooManyDigits => "Too many decimal digits in format string"
  | noPrecision => "Format specifier missing precision"
  | twoGroupings => "Cannot specify both ',' and '_'."
  | wrongGrouping g c => "Cannot specify '" ++ g.toString ++ "' with '" ++ shownLetter c ++ "'."

/-- Whether a character says which side a filling goes to. -/
def isAlignment (c : Char) : Bool :=
  c == '<' || c == '>' || c == '^' || c == '='

/-- The greatest width. -/
def maxWidth : Nat := 9223372036854775807

/-- Reads a number at the start of some characters, in the decimal digits of any script. -/
def readWidth (cs : List Char) : Except FormFault (Option Nat × List Char) :=
  let (n, rest) := Number.leadingNumber cs
  if n.any fun n => maxWidth < n then .error .tooManyDigits else .ok (n, rest)

/-- Takes one of some characters from the front. -/
def takeChar (choices : List Char) (cs : List Char) : Option Char × List Char :=
  match cs with
  | c :: rest => if choices.contains c then (some c, rest) else (none, cs)
  | [] => (none, [])

namespace Form

/-- The filling and the side at the start of a form. -/
def readAlignment (align : Char) (cs : List Char) : Char × Char × Bool × Bool × List Char :=
  match cs with
  | f :: a :: rest =>
    if isAlignment a then (f, a, true, true, rest)
    else if isAlignment f then (' ', f, false, true, a :: rest)
    else (' ', align, false, false, cs)
  | [a] => if isAlignment a then (' ', a, false, true, []) else (' ', align, false, false, cs)
  | [] => (' ', align, false, false, [])

/-- Reads the mark between groups of digits. -/
def readGrouping (cs : List Char) : Except FormFault (Option Char × List Char) :=
  let (comma, cs) := takeChar [','] cs
  let (bar, cs) := takeChar ['_'] cs
  if comma.isSome && bar.isSome then .error .twoGroupings
  else if bar.isSome && cs.head? == some ',' then .error .twoGroupings
  else .ok (comma.or bar, cs)

/-- The letter that stands for no letter. -/
def noLetter : Char := Char.ofNat 0

/-- Whether a mark between groups of digits goes with a notation. -/
def groupingFits (grouping : Char) (c : Char) : Bool :=
  ['d', 'e', 'f', 'g', 'E', 'G', '%', 'F', noLetter].contains c
    || (grouping == '_' && ['b', 'o', 'x', 'X'].contains c)

/-- Reads a form; `align` and `standard` are the side and the notation that go without saying. -/
def read (align : Char) (standard : Option Char) (text : String) : Except FormFault Form := do
  let (fill, align, hasFill, hasAlign, cs) := readAlignment align text.toList
  let (sign, cs) := takeChar [' ', '+', '-'] cs
  let (zero, cs) := takeChar ['z'] cs
  let (alternate, cs) := takeChar ['#'] cs
  let (padding, cs) := if hasFill then (none, cs) else takeChar ['0'] cs
  let fill := if padding.isSome then '0' else fill
  let align := if padding.isSome && !hasAlign && align == '>' then '=' else align
  let (width, cs) ← readWidth cs
  let (grouping, cs) ← readGrouping cs
  let (precision, cs) ← match cs with
    | '.' :: rest => do
      match ← readWidth rest with
      | (none, _) => throw .noPrecision
      | (some n, rest) => pure (some n, rest)
    | cs => pure (none, cs)
  if 1 < cs.length then throw .invalid
  let kind := cs.head?.or standard
  match grouping, kind with
  | some g, some c => if groupingFits g c then pure () else throw (.wrongGrouping g c)
  | _, _ => pure ()
  return ⟨fill, align, sign, zero.isSome, alternate.isSome, width.getD 0, grouping, precision, kind⟩

/-- Characters filled up to the width. -/
def pad (f : Form) (cs : List Char) : List Char :=
  let room := f.width - cs.length
  let fillers (n : Nat) : List Char := List.replicate n f.fill
  match f.align with
  | '<' => cs ++ fillers room
  | '^' => fillers (room / 2) ++ cs ++ fillers (room - room / 2)
  | _ => fillers room ++ cs

/-- Digits with a mark between groups, from the last digit on; at least so many characters, filled
with zeros. -/
def group (mark : Char) (size width : Nat) (digits : List Char) : List Char :=
  let rec go : (fuel : Nat) → (since : Nat) → (length : Nat) → List Char → List Char
    | 0, _, _, _ => []
    | fuel + 1, since, length, ds =>
      match ds with
      | [] =>
        if length < width then
          if since == size then mark :: go fuel 0 (length + 1) []
          else '0' :: go fuel (since + 1) (length + 1) []
        else []
      | d :: rest =>
        if since == size then mark :: go fuel 0 (length + 1) (d :: rest)
        else d :: go fuel (since + 1) (length + 1) rest
  let laid := (go (2 * (digits.length + width) + 2) 0 0 digits.reverse).reverse
  if laid.head? == some mark then '0' :: laid else laid

/-- A number laid out: its sign, a mark of its base, its digits, and what follows them. -/
def layOut (f : Form) (negative : Bool) (mark digits rest : List Char) : List Char :=
  let sign := if negative then ['-'] else
    match f.sign with
    | some '+' => ['+']
    | some ' ' => [' ']
    | _ => []
  let front := sign ++ mark
  let isZeroFilled := f.fill == '0' && f.align == '='
  let least := if isZeroFilled then f.width - front.length - rest.length else 0
  let size := match f.letter with
    | some 'b' | some 'o' | some 'x' | some 'X' => 4
    | _ => 3
  let digits := match f.grouping with
    | some g => if digits.isEmpty then [] else group g size least digits
    | none => List.replicate (least - digits.length) '0' ++ digits
  if f.align == '=' then
    front ++ List.replicate (f.width - front.length - digits.length - rest.length) f.fill ++ digits
      ++ rest
  else f.pad (front ++ digits ++ rest)

end Form

end StubClass.Text
