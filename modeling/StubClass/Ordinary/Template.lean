import StubClass.Ordinary.Text
import StubClass.Text.Template

set_option autoImplicit false

/-! # Filling templates

Objects are put into the fields of a template one after another: by their numbers, by keywords or
parts of them, each as its conversion and form say. -/

namespace StubClass

open StubClass.Text (Amount BraceField FieldStep PercentField)

/-- A result with its fault as a bad value. -/
def orBadValue {α : Type} : Except String α → Run α
  | .ok a => return a
  | .error message => throw (.badValue message)

/-- The literal form of an object in ASCII. -/
def plainLiteralOf (x : Obj) : Run String := do
  return String.ofList ((← literalOf x).toList.flatMap fun c =>
    if c.toNat < 128 then [c] else Text.codeEscape c.toNat)

/-! ## What is written -/

/-- A piece that is written into a text: characters, or an object that is the last one. -/
inductive Piece where
  | chars (cs : List Char)
  | last (x : Obj)

namespace Piece

/-- The characters of a piece. -/
def toChars (w : World) : Piece → List Char
  | chars cs => cs
  | last x => ((w.text? x).getD "").toList

/-- The text of several pieces: a last one with nothing in front of it is the text itself. -/
def join (ps : List Piece) : Run Obj := do
  let w ← get
  match ps.filter fun p => !(p.toChars w).isEmpty with
  | [last x] => return x
  | ps => newText (String.ofList (ps.flatMap (toChars w)))

end Piece

/-! ## Fields between braces -/

/-- How the fields of a template are told apart: by their numbers as they come, or as given. -/
inductive Numbering where
  | open
  | coming (next : Nat)
  | given
deriving Repr, DecidableEq

/-- What a template is filled from. -/
structure Filling where
  /-- The objects by position, if there can be any. -/
  positional : Option (List Obj)
  /-- What stands under a name. -/
  named : String → Run Obj

/-- The object of a step from another one. -/
def FieldStep.take (x : Obj) : FieldStep → Run Obj
  | .attribute name => StubClass.take x name
  | .index n => do partUnder x (← newInt n)
  | .key name => do partUnder x (← newText name)

/-- The object at the end of the steps of a field; `fuel` bounds how many there are. -/
def followSteps : (fuel : Nat) → Obj → List Char → Run Obj
  | 0, x, _ => return x
  | fuel + 1, x, cs => do
    match ← orBadValue (Text.nextFieldStep cs) with
    | none => return x
    | some (step, rest) => do followSteps fuel (← FieldStep.take x step) rest

/-- The object of a field, and how the fields are numbered after it. -/
def objectOfField (f : Filling) (numbering : Numbering) (name : List Char) :
    Run (Obj × Numbering) := do
  let (first, steps) := Text.firstOfField name
  let number ← orBadValue (Text.fieldNumber? first)
  let (number, numbering) ← match numbering, first, number with
    | .given, [], _ =>
      throw (.badValue
        "cannot switch from manual field specification to automatic field numbering")
    | .coming _, _ :: _, some _ =>
      throw (.badValue
        "cannot switch from automatic field numbering to manual field specification")
    | .open, [], _ => pure (some 0, Numbering.coming 1)
    | .coming n, [], _ => pure (some n, .coming (n + 1))
    | .open, _, some n => pure (some n, .given)
    | numbering, _, n => pure (n, numbering)
  let x ← match number, f.positional with
    | none, _ => f.named (String.ofList first)
    | some _, none => throw (.badValue "Format string contains positional fields")
    | some n, some xs =>
      match xs[n]? with
      | some x => pure x
      | none =>
        throw (.ordinary .badIndex ("Replacement index " ++ counted n
          ++ " out of range for positional args tuple"))
  return (← followSteps (steps.length + 1) x steps, numbering)

/-- An object after a conversion. -/
def converted (x : Obj) : Option Char → Run Obj
  | none => return x
  | some 'r' => literalAs x
  | some 's' => plainOf x
  | some 'a' => do newText (← plainLiteralOf x)
  | some c => throw (.badValue ("Unknown conversion specifier " ++ c.toString))

/-- The pieces of a filled template, whose fields may be nested to a depth; `fuel` bounds the number
of pieces. -/
def fillBraces (f : Filling) : (depth fuel : Nat) → Numbering → List Char →
    Run (List Piece × Numbering)
  | 0, _, _, _ => throw (.badValue "Max string recursion exceeded")
  | _, 0, numbering, _ => return ([], numbering)
  | depth + 1, fuel + 1, numbering, cs => do
    if cs.isEmpty then return ([], numbering)
    else
      let (front, field, rest) ← orBadValue (Text.nextBraceField cs)
      let (middle, numbering) ← match field with
        | none => pure (Piece.chars [], numbering)
        | some field => do
          let (x, numbering) ← objectOfField f numbering field.name
          let x ← converted x field.conversion
          let (form, numbering) ← if field.nests then do
              let (ps, numbering) ← fillBraces f depth field.form.length numbering field.form
              pure (ps.flatMap (Piece.toChars (← get)), numbering)
            else pure (field.form, numbering)
          let y ← formattedAs x (String.ofList form)
          let w ← get
          pure (if rest.isEmpty then .last y else .chars ((Piece.last y).toChars w), numbering)
      let (behind, numbering) ← fillBraces f (depth + 1) fuel numbering rest
      return (.chars front :: middle :: behind, numbering)

/-- A template with its fields between braces filled; one without braces is itself what comes
out. -/
def filledTemplate (f : Filling) (x : Obj) (text : String) : Run Obj := do
  let (pieces, _) ← fillBraces f 2 (text.length + 1) .open text.toList
  if !text.isEmpty && text.toList.all fun c => c != '{' && c != '}' then return x
  else Piece.join pieces

/-- The failure to find a name. -/
def noName {α : Type} (name : String) : Run α :=
  throw (.ordinary .noKey (Value.str name).literal)

/-- A template filled from the arguments of a call. -/
def fillFromCall (x : Obj) (text : String) (a : Operands) : Run Obj := do
  let named := (← get).namedOf a
  filledTemplate ⟨some a.positional, fun name =>
    match named.lookup name with
    | some x => return x
    | none => noName name⟩ x text

/-- A template filled from what an object holds under names. -/
def fillFromMapping (x : Obj) (text : String) (y : Obj) : Run Obj :=
  filledTemplate ⟨none, fun name => do partUnder y (← newText name)⟩ x text

/-! ## Fields after a percent sign -/

/-- What is left to be put into fields. -/
structure Supply where
  /-- The objects that are left. -/
  left : List Obj
  /-- What is asked for keys. -/
  mapping : Option Obj
  /-- Whether a key was asked for, so that nothing has to be used up. -/
  byKey : Bool

/-- The next object of a supply. -/
def Supply.next (s : Supply) : Run (Obj × Supply) :=
  match s.left with
  | x :: xs => return (x, { s with left := xs })
  | [] => throw (.badType "not enough arguments for format string")

/-- The number of an amount, which may be negative when it is asked for. -/
def amountOf (what : String) (most : Nat) (s : Supply) : Amount → Run (Option Int × Supply)
  | .none => return (none, s)
  | .given n =>
    if most < n then throw (.badValue (what ++ " too big")) else return (some n, s)
  | .asked => do
    let (x, s) ← s.next
    match (← get).whole? x with
    | some n => do
      let _ ← if most == Text.maxWidth then asSize n else smallArgument x
      return (some n, s)
    | none => throw (.badType "* wants int")

/-- A form for what a field says of sides, signs and width. -/
def formOf (flags : List Char) (width : Int) (precision : Option Nat) (letter : Char) :
    Text.Form :=
  let isBehind := flags.contains '-' || width < 0
  let isZero := flags.contains '0' && !isBehind
  { fill := if isZero then '0' else ' ',
    align := if isBehind then '<' else if isZero then '=' else '>',
    sign := if flags.contains '+' then some '+' else if flags.contains ' ' then some ' ' else none,
    plainZero := false, alternate := flags.contains '#', width := width.natAbs, grouping := none,
    precision, letter := some letter }

/-- A number with at least so many digits. -/
def wholeDigits (f : Text.Form) (n : Int) : List Char :=
  let least := f.precision.getD 0
  let (mark, ds) := match f.letter with
    | some 'o' => (['0', 'o'], Nat.toDigits 8 n.natAbs)
    | some 'x' => (['0', 'x'], Nat.toDigits 16 n.natAbs)
    | some 'X' => (['0', 'X'], (Nat.toDigits 16 n.natAbs).map Char.toUpper)
    | _ => ([], Nat.toDigits 10 n.natAbs)
  let ds := List.replicate (least - ds.length) '0' ++ ds
  f.layOut (n < 0) (if f.alternate then mark else []) ds []

/-- The whole number for a field of a letter. -/
def wholeForField (letter : Char) (x : Obj) : Run Int := do
  let w ← get
  let refuse (what : String) : Run Int :=
    throw (.badType ("%" ++ letter.toString ++ " format: " ++ what ++ ", not "
      ++ Text.clip 200 (w.typeTitle x)))
  let isNumber := ["__index__", "__int__", "__float__"].any fun n => (w.special? x n).isSome
  match w.body x with
  | .int n => return n
  | _ =>
    let isStrict := ['x', 'X', 'o'].contains letter
    let read : Run Int := if isStrict then indexOf x else wholeFrom x
    match ← if isNumber then catching Failure.isBadType read else pure none with
    | some n => return n
    | none => refuse (if isStrict then "an integer is required" else "a real number is required")

/-- The character for a field. -/
def characterForField (x : Obj) : Run (List Char) := do
  let w ← get
  let refuse : Run (List Char) := throw (.badType "%c requires int or char")
  match w.body x with
  | .str text => if text.length == 1 then return text.toList else refuse
  | .float _ => refuse
  | _ =>
    match ← catching Failure.isBadType (indexOf x) with
    | none => refuse
    | some n =>
      if 0 ≤ n && n < 0x110000 then return [Char.ofNat n.toNat]
      else throw (.ordinary .overflow "%c arg not in range(0x110000)")

/-- The bytes of an object for a field. -/
def bytesForField (x : Obj) : Run (List Char) := do
  let w ← get
  match w.body x with
  | .bytes bs => return Script.charsOf bs
  | _ =>
    match ← callSpecial? x "__bytes__" [] with
    | some y =>
      match (← get).body y with
      | .bytes bs => return Script.charsOf bs
      | _ =>
        throw (.badType ("__bytes__ returned non-bytes (type "
          ++ Text.clip 200 ((← get).typeTitle y) ++ ")"))
    | none =>
      throw (.badType ("%b requires a bytes-like object, or an object that implements __bytes__, "
        ++ "not '" ++ Text.clip 100 (w.typeTitle x) ++ "'"))

/-- The byte for a field. -/
def byteForField (x : Obj) : Run (List Char) := do
  let w ← get
  let refuse : Run (List Char) :=
    throw (.badType "%c requires an integer in range(256) or a single byte")
  match w.body x with
  | .bytes [b] => return [Char.ofNat b.toNat]
  | .float _ => refuse
  | _ =>
    match ← catching (fun _ => true) (indexOf x) with
    | none => refuse
    | some n =>
      if 0 ≤ n && n < 256 then return [Char.ofNat n.toNat]
      else throw (.ordinary .overflow "%c arg not in range(256)")

/-- The text of an object in a field of a text or of bytes. -/
def fieldChars (s : Script) (f : Text.Form) (letter : Char) (index : Nat) (x : Obj) :
    Run (List Char) := do
  let f := if ['s', 'b', 'r', 'a', 'c'].contains letter && f.fill == '0' then
      { f with fill := ' ', align := '>' }
    else f
  let fill (cs : List Char) : Run (List Char) := do
    requireRoom f.width
    return f.pad cs
  let cut (cs : List Char) : Run (List Char) :=
    match f.precision with
    | some n => fill (cs.take n)
    | none => fill cs
  let digits (f : Text.Form) (n : Int) : Run (List Char) := do
    if 2147483644 < f.precision.getD 0 then
      throw (.ordinary .overflow "precision too large")
    requireRoom (max f.width (f.precision.getD 0))
    return wholeDigits f n
  match letter, s with
  | 's', .bytes | 'b', .bytes => do cut (← bytesForField x)
  | 'a', _ | 'r', .bytes => do cut (← plainLiteralOf x).toList
  | 'c', .text => do fill (← characterForField x)
  | 'c', .bytes => do fill (← byteForField x)
  | 'd', _ | 'i', _ | 'u', _ => do
    let n ← wholeForField (if s == .bytes && letter == 'i' then 'd' else letter) x
    let _ ← wholeText n
    digits { f with letter := some 'd' } n
  | 'o', _ | 'x', _ | 'X', _ => do digits f (← wholeForField letter x)
  | 'e', _ | 'E', _ | 'f', _ | 'F', _ | 'g', _ | 'G', _ => do
    let y ← match s with
      | .text => floatOf x
      | .bytes => do
        match ← catching (fun e => e.isA .badType) (floatOf x) with
        | some y => pure y
        | none =>
          throw (.badType ("float argument required, not " ++ Text.clip 200 ((← get).typeTitle x)))
    requireRoom (max f.width (f.precision.getD 0))
    return Number.floatInForm f y
  | c, _ =>
    let shown := if 31 ≤ c.toNat && c.toNat < 127 || s == .bytes then c else '?'
    throw (.badValue ("unsupported format character '" ++ shown.toString ++ "' (0x"
      ++ String.ofList (Nat.toDigits 16 c.toNat) ++ ") at index " ++ counted index))

/-- An object in a field of a text or of bytes. The text of an object that needs no filling is taken
as it is. -/
def fieldPiece (s : Script) (f : Text.Form) (letter : Char) (index : Nat) (isLast : Bool)
    (x : Obj) :
    Run Piece := do
  if s == .text && (letter == 's' || letter == 'r') then do
    let y ← if letter == 's' then plainOf x else literalAs x
    let cs := (Piece.last y).toChars (← get)
    let isWhole := f.precision.all fun n => cs.length ≤ n
    if isLast && isWhole && f.width ≤ cs.length && f.sign.isNone then return .last y
    else
      let f := if f.fill == '0' then { f with fill := ' ', align := '>' } else f
      requireRoom f.width
      return .chars (f.pad (if isWhole then cs else cs.take (f.precision.getD 0)))
  else return .chars (← fieldChars s f letter index x)

/-- A template with its fields after percent signs filled; `index` is the number of the first
character, and `fuel` bounds the number of fields. -/
def fillPercents (sort : Script) : (fuel : Nat) → (index : Nat) → Supply → List Char →
    Run (List Piece × Supply)
  | 0, _, s, _ => return ([], s)
  | fuel + 1, index, s, cs => do
    let front := cs.takeWhile (· != '%')
    match cs.drop front.length with
    | [] => return ([.chars front], s)
    | _ :: '%' :: rest => do
      let (behind, s) ← fillPercents sort fuel (index + front.length + 2) s rest
      return (.chars (front ++ ['%']) :: behind, s)
    | _ :: cs => do
      let start := index + front.length + 1
      match Text.readPercentField? cs with
      | none =>
        if s.mapping.isNone then throw (.badType "format requires a mapping")
        else throw (.badValue "incomplete format key")
      | some (field, rest) => do
        let s ← match field.key, s.mapping with
          | none, _ => pure s
          | some _, none => throw (.badType "format requires a mapping")
          | some key, some m => do
            let x ← partUnder m (← sort.make key.toList)
            pure { s with left := [x], byKey := true }
        let (width, s) ← amountOf "width" Text.maxWidth s field.width
        let (precision, s) ← amountOf (if sort == .text then "precision" else "prec") 2147483647 s
          field.precision
        match field.letter with
        | none => throw (.badValue "incomplete format")
        | some letter => do
          let (x, s) ← s.next
          let f := formOf field.flags (width.getD 0) (precision.map Int.toNat) letter
          let at_ := start + (cs.length - rest.length) - 1
          if sort == .bytes && 128 ≤ letter.toNat && !field.isAfterDigits then
            throw (.ordinary .overflow "character argument not in range(0x110000)")
          let middle ← fieldPiece sort f letter at_ rest.isEmpty x
          let (behind, s) ← fillPercents sort fuel (at_ + 1) s rest
          return (.chars front :: middle :: behind, s)

/-- A template filled from the right side of the operator for it; one without percent signs is
itself what comes out. -/
def fillFromOperand (sort : Script) (x : Obj) (cs : List Char) (y : Obj) : Run Obj := do
  let w ← get
  let isMapping := (w.special? y "__getitem__").isSome
    && !w.isOf y .tuple && !w.isOf y .str && !(sort == .bytes && w.isOf y .bytes)
  let left := match w.body y with
    | .tuple ys => ys
    | _ => [y]
  let supply : Supply := ⟨left, if isMapping then some y else none, false⟩
  let (pieces, s) ← fillPercents sort (cs.length + 1) 0 supply cs
  if !s.left.isEmpty && !isMapping && !s.byKey then
    throw (.badType ("not all arguments converted during "
      ++ (if sort == .text then "string" else "bytes") ++ " formatting"))
  else if sort == .text && !cs.isEmpty && !cs.contains '%' then return x
  else
    match sort with
    | .text => Piece.join pieces
    | .bytes => do sort.make (pieces.flatMap (Piece.toChars (← get)))

end StubClass
