import StubClass.Encoding.Fault

set_option autoImplicit false

/-! # Text in escapes

Two encodings that write characters by their code points after backslashes. One escapes all that is
not printable ASCII, and reads escapes of many kinds; the other escapes only what is beyond a byte,
and reads no other escapes. -/

namespace StubClass.Encoding.Escaped

/-- A byte as the character of its value. -/
def plain (b : UInt8) : Char :=
  Char.ofNat b.toNat

/-- Text as bytes. -/
def bytesOf (cs : List Char) : List UInt8 :=
  cs.map fun c => UInt8.ofNat c.toNat

/-! ## Writing -/

/-- A text with escapes for all that is not printable ASCII. -/
def write (cs : List Char) : List UInt8 :=
  bytesOf (cs.flatMap fun c =>
    match c with
    | '\t' => ['\\', 't']
    | '\n' => ['\\', 'n']
    | '\r' => ['\\', 'r']
    | '\\' => ['\\', '\\']
    | c => if 0x20 ≤ c.toNat && c.toNat < 0x7F then [c] else Text.codeEscape c.toNat)

/-- A text with escapes for all that is beyond a byte. -/
def writeRaw (cs : List Char) : List UInt8 :=
  bytesOf (cs.flatMap fun c => if c.toNat < 0x100 then [c] else Text.codeEscape c.toNat)

/-! ## Reading -/

/-- The value of a hexadecimal digit. -/
def digit? (b : UInt8) : Option Nat :=
  let c := plain b
  if '0' ≤ c && c ≤ '9' then some (c.toNat - '0'.toNat)
  else if 'a' ≤ c && c ≤ 'f' then some (c.toNat - 'a'.toNat + 10)
  else if 'A' ≤ c && c ≤ 'F' then some (c.toNat - 'A'.toNat + 10)
  else none

/-- What an escape of so many digits is; `open_` is how many bytes stand before the digits. -/
def numbered (open_ count : Nat) (truncated beyond : String) (bs : List UInt8) : Next :=
  let ds := (bs.take count).mapM digit?
  let read := ((bs.take count).takeWhile fun b => (digit? b).isSome).length
  match ds with
  | some ds =>
    if ds.length < count then .fault (open_ + read) truncated
    else
      let n := ds.foldl (fun n d => 16 * n + d) 0
      if 0x110000 ≤ n then .fault (open_ + count) beyond
      else .characters [Char.ofNat n] (open_ + count)
  | none => .fault (open_ + read) truncated

/-- What an escape of up to three octal digits is. -/
def octal (bs : List UInt8) : Next :=
  let ds := (bs.take 3).takeWhile fun b => 48 ≤ b.toNat && b.toNat < 56
  .characters [Char.ofNat (ds.foldl (fun n b => 8 * n + (b.toNat - 48)) 0)] (ds.length + 1)

/-- What an escape by a name is. -/
def named (bs : List UInt8) : Next :=
  let malformed := "malformed \\N character escape"
  match bs.map plain with
  | '\x7b' :: cs =>
    let name := cs.takeWhile (· != '\x7d')
    if name.length == cs.length then .fault (bs.length + 2) malformed
    else if name.isEmpty then .fault 3 malformed
    else
      match Text.characterNamed? (String.ofList name) with
      | some c => .characters [c] (name.length + 4)
      | none => .fault (name.length + 4) "unknown Unicode character name"
  | _ => .fault 2 malformed

/-- What comes next where escapes of all kinds are read. -/
def next : List UInt8 → Next
  | 92 :: [] => .fault 1 "\\ at end of string"
  | 92 :: b :: bs =>
    let one (c : Char) : Next := .characters [c] 2
    match plain b with
    | '\n' => .characters [] 2
    | '\\' => one '\\'
    | '\'' => one '\''
    | '"' => one '"'
    | 'a' => one '\x07'
    | 'b' => one '\x08'
    | 't' => one '\t'
    | 'n' => one '\n'
    | 'v' => one '\x0b'
    | 'f' => one '\x0c'
    | 'r' => one '\r'
    | 'x' => numbered 2 2 "truncated \\xXX escape" "" bs
    | 'u' => numbered 2 4 "truncated \\uXXXX escape" "" bs
    | 'U' => numbered 2 8 "truncated \\UXXXXXXXX escape" "illegal Unicode character" bs
    | 'N' => named bs
    | c => if '0' ≤ c && c ≤ '7' then octal (b :: bs) else .characters ['\\', c] 2
  | b :: _ => .characters [plain b] 1
  | [] => .characters [] 0

/-- What comes next where only escapes of code points are read. -/
def nextRaw : List UInt8 → Next
  | 92 :: b :: bs =>
    match plain b with
    | 'u' => numbered 2 4 "truncated \\uXXXX escape" "" bs
    | 'U' => numbered 2 8 "truncated \\UXXXXXXXX escape" "\\Uxxxxxxxx out of range" bs
    | c => .characters ['\\', c] 2
  | b :: _ => .characters [plain b] 1
  | [] => .characters [] 0

end StubClass.Encoding.Escaped
