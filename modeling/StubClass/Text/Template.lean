import StubClass.Text.Form

set_option autoImplicit false

/-! # Templates

A template is a text with fields. In one sort of template a field stands between braces: a name with
attributes and keys, a conversion, and a form. In the other one a field starts with a percent sign:
a key, flags, a width, a precision, and a letter. Templates are read field by field, because what is
put into a field may fail before the next one is read. -/

namespace StubClass.Text

/-! ## Fields between braces -/

/-- A field between braces. -/
structure BraceField where
  name : List Char
  conversion : Option Char
  form : List Char
  /-- Whether the form holds fields itself. -/
  nests : Bool

/-- The characters of a name up to its end, which is left in front of the rest. -/
def takeFieldName : (inKey : Bool) → List Char → Except String (List Char × List Char)
  | _, [] => .ok ([], [])
  | inKey, c :: cs =>
    if inKey then (takeFieldName (c != ']') cs).map fun r => (c :: r.1, r.2)
    else if c == '{' then .error "unexpected '\x7b' in field name"
    else if c == '}' || c == ':' || c == '!' then .ok ([], c :: cs)
    else (takeFieldName (c == '[') cs).map fun r => (c :: r.1, r.2)

/-- The characters of a form up to the brace that ends it, with how many braces are open. -/
def takeForm : (depth : Nat) → List Char → Option (List Char × List Char)
  | _, [] => none
  | depth, c :: cs =>
    if c == '}' then
      match depth with
      | 0 => some ([], cs)
      | depth + 1 => (takeForm depth cs).map fun r => (c :: r.1, r.2)
    else (takeForm (if c == '{' then depth + 1 else depth) cs).map fun r => (c :: r.1, r.2)

/-- A form after its colon, and what follows the field. -/
def readFieldForm (name : List Char) (conversion : Option Char) (cs : List Char) :
    Except String (BraceField × List Char) :=
  match takeForm 0 cs with
  | some (form, rest) => .ok (⟨name, conversion, form, form.contains '{'⟩, rest)
  | none => .error "unmatched '\x7b' in format spec"

/-- A field after its brace, and what follows it. -/
def readBraceField (cs : List Char) : Except String (BraceField × List Char) := do
  match ← takeFieldName false cs with
  | (name, '}' :: rest) => return (⟨name, none, [], false⟩, rest)
  | (name, ':' :: rest) => readFieldForm name none rest
  | (_, ['!']) => throw "end of string while looking for conversion specifier"
  | (name, '!' :: c :: '}' :: rest) => return (⟨name, some c, [], false⟩, rest)
  | (name, '!' :: c :: ':' :: rest) => readFieldForm name (some c) rest
  | (name, '!' :: c :: []) => readFieldForm name (some c) []
  | (_, '!' :: _) => throw "expected ':' after conversion specifier"
  | _ => throw "expected '\x7d' before end of string"

/-- The text in front of the next field, the field, and what follows it. -/
def nextBraceField : List Char → Except String (List Char × Option BraceField × List Char)
  | [] => .ok ([], none, [])
  | '{' :: '{' :: cs => .ok (['{'], none, cs)
  | '}' :: '}' :: cs => .ok (['}'], none, cs)
  | '}' :: _ => .error "Single '\x7d' encountered in format string"
  | ['{'] => .error "Single '\x7b' encountered in format string"
  | '{' :: cs => (readBraceField cs).map fun r => ([], some r.1, r.2)
  | c :: cs => (nextBraceField cs).map fun r => (c :: r.1, r.2)

/-- A step from an object to a part of it. -/
inductive FieldStep where
  | attribute (name : String)
  | index (n : Nat)
  | key (name : String)

/-- The number that a name is, or nothing if it is none. -/
def fieldNumber? (cs : List Char) : Except String (Option Nat) :=
  match Number.leadingNumber cs with
  | (some n, []) =>
    if maxWidth < n then .error "Too many decimal digits in format string" else .ok (some n)
  | _ => .ok none

/-- The first part of a name. -/
def firstOfField (cs : List Char) : List Char × List Char :=
  let isPart (c : Char) : Bool := c != '.' && c != '['
  (cs.takeWhile isPart, cs.dropWhile isPart)

/-- The next step of a name, and what follows it. -/
def nextFieldStep (cs : List Char) : Except String (Option (FieldStep × List Char)) := do
  match cs with
  | [] => return none
  | '.' :: cs =>
    let (name, rest) := firstOfField cs
    if name.isEmpty then throw "Empty attribute in format string"
    else return some (.attribute (String.ofList name), rest)
  | '[' :: cs =>
    let key := cs.takeWhile (· != ']')
    match cs.drop key.length with
    | [] => throw "Missing ']' in format string"
    | _ :: rest =>
      if key.isEmpty then throw "Empty attribute in format string"
      else
        match ← fieldNumber? key with
        | some n => return some (.index n, rest)
        | none => return some (.key (String.ofList key), rest)
  | _ => throw "Only '.' or '[' may follow ']' in format field specifier"

/-! ## Fields after a percent sign -/

/-- A width or a precision: none, a number, or the next object. -/
inductive Amount where
  | none
  | given (n : Nat)
  | asked
deriving Repr, DecidableEq

/-- A field after a percent sign. -/
structure PercentField where
  key : Option String
  flags : List Char
  width : Amount
  precision : Amount
  /-- The letter, unless the template ends before it. -/
  letter : Option Char
  /-- Whether the letter comes right behind the digits of an amount. -/
  isAfterDigits : Bool

/-- The characters of a key up to the bracket that ends it. -/
def takeKey : (depth : Nat) → List Char → Option (List Char × List Char)
  | _, [] => none
  | depth, c :: cs =>
    if c == ')' then
      match depth with
      | 0 => some ([], cs)
      | depth + 1 => (takeKey depth cs).map fun r => (c :: r.1, r.2)
    else (takeKey (if c == '(' then depth + 1 else depth) cs).map fun r => (c :: r.1, r.2)

/-- An amount at the start of some characters. -/
def readAmount (cs : List Char) : Amount × List Char :=
  match cs with
  | '*' :: rest => (.asked, rest)
  | cs =>
    let ds := cs.takeWhile Char.isDigit
    (if ds.isEmpty then .none else .given (Nat.ofDigitChars 10 ds 0), cs.drop ds.length)

/-- Whether an amount is written in digits. -/
def Amount.isGiven : Amount → Bool
  | .given _ => true
  | _ => false

/-- A field after its percent sign, and what follows it; nothing if its key does not end. -/
def readPercentField? (cs : List Char) : Option (PercentField × List Char) := do
  let (key, cs) ← match cs with
    | '(' :: cs => (takeKey 0 cs).map fun r => (some (String.ofList r.1), r.2)
    | cs => some (none, cs)
  let isFlag (c : Char) : Bool := ['-', '+', ' ', '#', '0'].contains c
  let flags := cs.takeWhile isFlag
  let (width, cs) := readAmount (cs.drop flags.length)
  let (precision, isAfterDigits, cs) := match cs with
    | '.' :: cs =>
      match readAmount cs with
      | (.none, cs) => (.given 0, false, cs)
      | (amount, cs) => (amount, amount.isGiven, cs)
    | cs => (Amount.none, width.isGiven, cs)
  let (isAfterDigits, cs) := match cs with
    | c :: rest => if ['h', 'l', 'L'].contains c then (false, rest) else (isAfterDigits, c :: rest)
    | [] => (isAfterDigits, [])
  return (⟨key, flags, width, precision, cs.head?, isAfterDigits⟩, cs.drop 1)

end StubClass.Text
