import StubClass.Encoding.Scheme
import StubClass.Ordinary.Argument

set_option autoImplicit false

/-! # Encoded text

Texts as bytes and bytes as texts, in an encoding that is asked for by its name. What fails in an
encoding that had to be looked up says so. -/

namespace StubClass

/-- The class of errors of a fault. -/
def Encoding.Fault.errorClass : Encoding.Fault → ErrorClass
  | unwritable .. => .encoding
  | unreadable .. => .decoding
  | unknownHandling _ => .notFound
  | writingOnly => .badType
  | malformed _ => .coding

/-- The name of the class of errors of a fault. -/
def Encoding.Fault.className : Encoding.Fault → String
  | unwritable .. => "UnicodeEncodeError"
  | unreadable .. => "UnicodeDecodeError"
  | unknownHandling _ => "LookupError"
  | writingOnly => "TypeError"
  | malformed _ => "UnicodeError"

/-- The failure of a fault; `doing` are words for what was done in the encoding, unless it is one of
those that are known at once. Faults of single characters and bytes tell the place themselves. -/
def encodingFailure (doing : Option String) (fault : Encoding.Fault) : Failure :=
  let c := fault.errorClass
  match doing, c with
  | none, _ | _, .encoding | _, .decoding => .ordinary c fault.message
  | some words, _ =>
    { kind := .ordinary c
      message := words ++ " (" ++ fault.className ++ ": " ++ fault.message ++ ")"
      cause := some (.ordinary c, fault.message) }

/-- The encoding of a name; `function` is what would take one that is not of text. -/
def encodingNamed (name function : String) : Run Encoding.Scheme := do
  match Encoding.ofName? name with
  | none => throw (.ordinary .notFound ("unknown encoding: " ++ name))
  | some .notText =>
    throw (.ordinary .notFound ("'" ++ Text.clip 400 name ++ "' is not a text encoding; use "
      ++ function ++ " to handle arbitrary codecs"))
  | some s => return s

/-- What was done in an encoding, in words, unless it is known at once. -/
def doingIn (what name : String) : Option String :=
  if Encoding.isCommon name then none
  else some (what ++ " with '" ++ name ++ "' codec failed")

/-- The bytes of a text in an encoding. -/
def encodeText (text name errors : String) : Run Obj := do
  let s ← encodingNamed name "codecs.encode()"
  match s.write errors text.toList with
  | .ok bs => newBytes bs
  | .error fault => throw (encodingFailure (doingIn "encoding" name) fault)

/-- The text of bytes in an encoding. Where there are no bytes no encoding is looked for. -/
def decodeBytes (bs : List UInt8) (name errors : String) : Run Obj := do
  if bs.isEmpty then newText ""
  else
    let s ← encodingNamed name "codecs.decode()"
    match s.read errors bs with
    | .ok cs => newText (String.ofList cs)
    | .error fault => throw (encodingFailure (doingIn "decoding" name) fault)

/-- A word for a parameter, if it is given. -/
def wordFor (function name : String) (x : Option Obj) : Run (Option String) := do
  let word ← textFor function name x
  if (word.getD "").toList.contains '\x00' then throw (.badValue "embedded null character")
  else return word

/-- The encoding and what is done about faults, as a method takes them. -/
def encodingArguments (name : String) (a : Operands) : Run (String × String) := do
  let given ← passTo name ["encoding", "errors"] a
  let encoding ← wordFor name "encoding" (givenAt given 0)
  let errors ← wordFor name "errors" (givenAt given 1)
  return (encoding.getD "utf-8", errors.getD "strict")

end StubClass
