import StubClass.Text.CharacterName
import StubClass.Text.Quoted
import StubClass.Value.Text

set_option autoImplicit false

/-! # Faults of encodings

An encoding may have no bytes for characters, and bytes may stand for no characters. What is then
done is named by a word: to fail, to leave the fault out, or to put a mark, an escape, a reference
or a name in its place. The word is looked at only when there is a fault. -/

namespace StubClass.Encoding

/-- Why a text cannot be written, or bytes cannot be read, in an encoding. -/
inductive Fault where
  /-- There are no bytes for the characters from `first` to `last`, of which `c` is the first. -/
  | unwritable (encoding : String) (c : Char) (first last : Nat) (reason : String)
  /-- The bytes from `first` to `last`, of which `b` is the first, stand for no characters. -/
  | unreadable (encoding : String) (b : UInt8) (first last : Nat) (reason : String)
  /-- A word for what is done that is not known. -/
  | unknownHandling (word : String)
  /-- A word for what is done about characters only. -/
  | writingOnly
  /-- A text or bytes that break a rule of the encoding as a whole. -/
  | malformed (reason : String)
deriving Repr, DecidableEq, Inhabited

namespace Fault

/-- A number as it is written. -/
def counted (n : Nat) : String :=
  (Value.int n).literal

/-- The places from a first to a last one. -/
def places (first last : Nat) : String :=
  if first == last then " in position " ++ counted first
  else "s in position " ++ counted first ++ "-" ++ counted last

/-- The words for a fault. -/
def message : Fault → String
  | unwritable encoding c first last reason =>
    let what :=
      if first == last then "character '" ++ String.ofList (Text.codeEscape c.toNat) ++ "'"
      else "character"
    "'" ++ encoding ++ "' codec can't encode " ++ what ++ places first last ++ ": " ++ reason
  | unreadable encoding b first last reason =>
    let what := if first == last then "byte 0x" ++ String.ofList (Text.hexDigits 2 b.toNat)
      else "byte"
    "'" ++ encoding ++ "' codec can't decode " ++ what ++ places first last ++ ": " ++ reason
  | unknownHandling word => "unknown error handler name '" ++ word ++ "'"
  | writingOnly => "don't know how to handle UnicodeDecodeError in error callback"
  | malformed reason => reason

end Fault

/-- What is done about a fault. -/
inductive Handling where
  | fail
  | leaveOut
  /-- A mark stands for each character, or for the bytes of a fault. -/
  | mark
  /-- The code points of characters, or the bytes, stand after backslashes. -/
  | escape
  /-- The code points of characters stand in references. -/
  | reference
  /-- The names of characters stand after backslashes. -/
  | name
deriving Repr, DecidableEq, Inhabited

namespace Handling

/-- What is done by a word. Two of the words are about halves of pairs, which no text has: with them
every fault is one. -/
def ofWord : String → Except Fault Handling
  | "strict" | "surrogateescape" | "surrogatepass" => .ok fail
  | "ignore" => .ok leaveOut
  | "replace" => .ok mark
  | "backslashreplace" => .ok escape
  | "xmlcharrefreplace" => .ok reference
  | "namereplace" => .ok name
  | word => .error (.unknownHandling word)

/-- What stands for characters that an encoding does not have, if anything does. -/
def written? (h : Handling) (cs : List Char) : Option (List Char) :=
  match h with
  | fail => none
  | leaveOut => some []
  | mark => some (cs.map fun _ => '?')
  | escape => some (cs.flatMap fun c => Text.codeEscape c.toNat)
  | reference => some (cs.flatMap fun c => "&#".toList ++ Value.intChars c.toNat ++ [';'])
  | name => some (cs.flatMap fun c =>
    match Text.characterName? c with
    | some n => "\\N\x7b".toList ++ n.toList ++ ['\x7d']
    | none => Text.codeEscape c.toNat)

/-- The mark that stands for bytes without characters. -/
def replacement : Char := '\uFFFD'

/-- What stands for bytes without characters: a fault if nothing may. -/
def read (h : Handling) (fault : Fault) (bs : List UInt8) : Except Fault (List Char) :=
  match h with
  | fail => .error fault
  | leaveOut => .ok []
  | mark => .ok [replacement]
  | escape => .ok (bs.flatMap fun b => Text.codeEscape b.toNat)
  | reference | name => .error .writingOnly

end Handling

/-! ## Writing -/

/-- An encoding that writes each character by itself, if it has it. -/
structure Charset where
  encoding : String
  /-- Why it does not have a character. -/
  reason : String
  bytes? : Char → Option (List UInt8)

namespace Charset

/-- The bytes of characters, if the encoding has all of them. -/
def writeAll? (s : Charset) (cs : List Char) : Option (List UInt8) :=
  (cs.mapM s.bytes?).map List.flatten

/-- The bytes of characters from a place on; `fuel` bounds how many there are. Characters in a row
that the encoding does not have are one fault, and what is put in their place has to be written
too. -/
def writeFrom (s : Charset) (word : String) : (fuel place : Nat) → List Char →
    Except Fault (List UInt8)
  | 0, _, _ => .ok []
  | _ + 1, _, [] => .ok []
  | fuel + 1, place, c :: cs => do
    match s.bytes? c with
    | some bs => return bs ++ (← writeFrom s word fuel (place + 1) cs)
    | none =>
      let missing := c :: cs.takeWhile fun d => (s.bytes? d).isNone
      let count := missing.length
      let handling ← Handling.ofWord word
      match (handling.written? missing).bind s.writeAll? with
      | none => .error (.unwritable s.encoding c place (place + count - 1) s.reason)
      | some bs => return bs ++ (← writeFrom s word fuel (place + count) ((c :: cs).drop count))

/-- The bytes of a text. -/
def write (s : Charset) (word : String) (cs : List Char) : Except Fault (List UInt8) :=
  s.writeFrom word cs.length 0 cs

/-- The encoding whose bytes are the code points below a limit. -/
def below (encoding : String) (limit : Nat) : Charset where
  encoding
  reason := "ordinal not in range(" ++ Fault.counted limit ++ ")"
  bytes? c := if c.toNat < limit then some [UInt8.ofNat c.toNat] else none

end Charset

/-! ## Reading -/

/-- What comes next in bytes: characters and how many bytes they take, or how many bytes are at
fault and why. -/
inductive Next where
  | characters (cs : List Char) (count : Nat)
  | fault (count : Nat) (reason : String)

/-- Reads bytes from a place on, by what comes next in them; `fuel` bounds how many there are. -/
def readFrom (encoding word : String) (next : List UInt8 → Next) : (fuel place : Nat) →
    List UInt8 → Except Fault (List Char)
  | 0, _, _ => .ok []
  | _ + 1, _, [] => .ok []
  | fuel + 1, place, b :: bs => do
    match next (b :: bs) with
    | .characters cs count =>
      return cs ++ (← readFrom encoding word next fuel (place + count) ((b :: bs).drop count))
    | .fault count reason =>
      let handling ← Handling.ofWord word
      let fault := .unreadable encoding b place (place + count - 1) reason
      let cs ← handling.read fault ((b :: bs).take count)
      return cs ++ (← readFrom encoding word next fuel (place + count) ((b :: bs).drop count))

/-- Reads bytes, by what comes next in them. -/
def readBy (encoding word : String) (next : List UInt8 → Next) (bs : List UInt8) :
    Except Fault (List Char) :=
  readFrom encoding word next bs.length 0 bs

end StubClass.Encoding
