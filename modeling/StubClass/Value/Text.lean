import StubClass.Number.FloatText
import StubClass.Text.Quoted
import StubClass.Value

set_option autoImplicit false

/-! # How values are written

A value has a literal form, which shows its type and every part of it, and a plain form, which is
the same but for texts: they stand without quotes. Defaults in signatures and values in messages
are written in literal form, names in messages in plain form. An integer of too many digits cannot
be written, and neither can what it is a part of. -/

namespace StubClass

/-- The plain form of a kind. -/
def ParameterKind.plain (k : ParameterKind) : String :=
  "ParameterKind." ++ k.constant

/-- The literal form of a kind. -/
def ParameterKind.literal (k : ParameterKind) : String :=
  "<" ++ k.plain ++ ": '" ++ k.word ++ "'>"

/-- The plain form of a visibility. -/
def Visibility.plain (v : Visibility) : String :=
  "Visibility." ++ v.constant

/-- The literal form of a visibility. -/
def Visibility.literal (v : Visibility) : String :=
  "<" ++ v.plain ++ ": '" ++ v.word ++ "'>"

namespace Value

/-- The decimal digits of an integer, with a minus sign below zero. -/
def intChars : Int → List Char
  | .ofNat n => Nat.toDigits 10 n
  | .negSucc n => '-' :: Nat.toDigits 10 (n + 1)

/-- The parts of a list, a tuple or a dictionary, with a comma and a space between them. -/
def commaSeparated : List (List Char) → List Char
  | [] => []
  | [part] => part
  | part :: next :: rest => part ++ ',' :: ' ' :: commaSeparated (next :: rest)

/-- The parts of a tuple between parentheses; a comma marks the tuple of one part. -/
def tupleChars : List (List Char) → List Char
  | [part] => '(' :: (part ++ [',', ')'])
  | parts => '(' :: (commaSeparated parts ++ [')'])

mutual

/-- The literal form of a value. -/
def chars : Value → List Char
  | null => "None".toList
  | bool true => "True".toList
  | bool false => "False".toList
  | int n => intChars n
  | float x => Number.floatChars x
  | str text => Text.quoted text.toList
  | symbol text => "Symbol(".toList ++ (Text.quoted text.toList ++ [')'])
  | bytes bs => 'b' :: Text.quotedBytes bs
  | list xs => '[' :: (commaSeparated (charsOfAll xs) ++ [']'])
  | tuple xs => tupleChars (charsOfAll xs)
  | dict es => '\x7b' :: (commaSeparated (charsOfEntries es) ++ ['\x7d'])
  | type t => t.literal.toList
  | kind k => k.literal.toList
  | visibility v => v.literal.toList

/-- The literal forms of several values. -/
def charsOfAll : List Value → List (List Char)
  | [] => []
  | x :: xs => x.chars :: charsOfAll xs

/-- The literal forms of the entries of a dictionary. -/
def charsOfEntries : List (Value × Value) → List (List Char)
  | [] => []
  | entry :: es => charsOfEntry entry :: charsOfEntries es

/-- The literal form of one entry: a key and what it stands for. -/
def charsOfEntry : Value × Value → List Char
  | (key, value) => key.chars ++ ':' :: ' ' :: value.chars

end

mutual

/-- Whether a value can be written: no integer in it has too many digits. -/
def isWritable : Value → Bool
  | int n => n.natAbs < Number.tooLong
  | list xs | tuple xs => areWritable xs
  | dict es => areWritableEntries es
  | _ => true

/-- Whether several values can be written. -/
def areWritable : List Value → Bool
  | [] => true
  | x :: xs => x.isWritable && areWritable xs

/-- Whether the entries of a dictionary can be written. -/
def areWritableEntries : List (Value × Value) → Bool
  | [] => true
  | entry :: es => isWritableEntry entry && areWritableEntries es

/-- Whether one entry can be written. -/
def isWritableEntry : Value × Value → Bool
  | (key, value) => key.isWritable && value.isWritable

end

/-- The literal form of a value, as a string. -/
def literal (v : Value) : String :=
  String.ofList v.chars

/-- The plain form of a value. -/
def plain : Value → String
  | str text | symbol text => text
  | kind k => k.plain
  | visibility v => v.plain
  | v => v.literal

end Value

end StubClass
