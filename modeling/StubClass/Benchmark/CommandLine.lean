import StubClass.Number.Numeral
import StubClass.Value.Text

set_option autoImplicit false

/-! # The command line of the benchmark

The command line has an option that shows the help and an option that takes the place of the
results. Long options may be shortened to any beginning and take their value after an equals sign or
as the next word; the short option may be repeated within its word. Words are first told apart one
by one, so an ambiguous one is refused whatever stands before it; then they are taken from left to
right. No word is taken that is not an option or the value of one: all such words are refused
together at the end. What is joined to the options is not taken alike by all releases of the
reader. -/

namespace StubClass.Benchmark

/-- The releases of the reader of command lines. -/
inductive Release where
  /-- Every letter behind the short option is to be the short option again, and a divider that is
  joined to an option is no value of it. -/
  | early
  /-- The first letter behind the short option that is none is left aside with what follows, and
  what is joined to an option is its value. -/
  | late
deriving Repr, DecidableEq

/-! ## Words -/

/-- The options. -/
inductive Flag where
  | help
  | output
deriving Repr, DecidableEq

namespace Flag

/-- The long spelling of an option. -/
def long : Flag → String
  | help => "--help"
  | output => "--output"

/-- The options, in the order in which they are listed. -/
def all : List Flag := [help, output]

/-- Whether some characters are a beginning of the long spelling of an option. -/
def startsWith (f : Flag) (cs : List Char) : Bool :=
  cs.isPrefixOf f.long.toList

end Flag

/-- A word by what it looks like. -/
inductive Word where
  /-- A word that may be a value. -/
  | plain (text : String)
  /-- The mark after which every word is plain. -/
  | divider
  /-- An option, with what is joined to it by an equals sign. -/
  | option (flag : Flag) (joined : Option String)
  /-- The short option for help, with what follows it in its word, maybe behind an equals sign. -/
  | shortHelp (joined : Bool) (rest : String)
  /-- A word that looks like an option and is none. -/
  | unknown (text : String)
deriving Repr, DecidableEq

/-- Why a command line is refused. -/
inductive Refusal where
  | ambiguous (text : String) (matching : List Flag)
  | ignoredValue (text : String)
  | missingValue
  | unrecognized (texts : List String)
deriving Repr, DecidableEq

/-- The words for a refusal. -/
def Refusal.message : Refusal → String
  | ambiguous text matching =>
    "ambiguous option: " ++ text ++ " could match "
      ++ String.intercalate ", " (matching.map Flag.long)
  | ignoredValue text =>
    "argument -h/--help: ignored explicit argument " ++ (Value.str text).literal
  | missingValue => "argument --output: expected one argument"
  | unrecognized texts => "unrecognized arguments: " ++ String.intercalate " " texts

/-- Whether characters are one or more digits of any script. -/
def isDigits (cs : List Char) : Bool :=
  !cs.isEmpty && cs.all fun c => (Number.digit? c).isSome

/-- Whether the characters after a minus sign are those of a number: digits, with or without a point
before the last of them. A line break at the end is passed over. -/
def isNumber (cs : List Char) : Bool :=
  let cs := if cs.getLast? == some '\n' then cs.dropLast else cs
  match cs.dropWhile fun c => (Number.digit? c).isSome with
  | '.' :: places => isDigits places
  | _ => isDigits cs

/-- What is joined to a word by an equals sign. -/
def joinedValue (cs : List Char) : Option String :=
  match cs.dropWhile (· != '=') with
  | [] => none
  | _ :: rest => some (String.ofList rest)

/-- Reads a word that is neither an option nor the beginning of one. With a blank in it or as a
negative number it may be a value. -/
def Word.ofOther (cs : List Char) : Word :=
  if isNumber (cs.drop 1) || cs.contains ' ' then .plain (String.ofList cs)
  else .unknown (String.ofList cs)

/-- Reads a word that starts with two minus signs. -/
def Word.ofLong (cs : List Char) : Except Refusal Word :=
  match Flag.all.filter fun f => f.startsWith (cs.takeWhile (· != '=')) with
  | [] => .ok (.ofOther cs)
  | [f] => .ok (.option f (joinedValue cs))
  | matching => .error (.ambiguous (String.ofList cs) matching)

/-- Reads a word. -/
def Word.read (text : String) : Except Refusal Word :=
  match text.toList with
  | '-' :: '-' :: cs => Word.ofLong ('-' :: '-' :: cs)
  | ['-', 'h'] => .ok (.option .help none)
  | '-' :: 'h' :: '=' :: cs => .ok (.shortHelp true (String.ofList cs))
  | '-' :: 'h' :: cs => .ok (.shortHelp false (String.ofList cs))
  | '-' :: c :: cs => .ok (.ofOther ('-' :: c :: cs))
  | cs => .ok (.plain (String.ofList cs))

/-- Reads words. After the divider all words are plain. -/
def Word.readAll : List String → Except Refusal (List Word)
  | [] => .ok []
  | text :: texts =>
    if text == "--" then .ok (.divider :: texts.map .plain)
    else do
      let w ← Word.read text
      return w :: (← Word.readAll texts)

/-! ## Commands -/

/-- Where the results are to go. -/
inductive Destination where
  /-- To the place that is taken when none is given. -/
  | standard
  /-- To the place of a text. -/
  | named (text : String)
  /-- To no place, which shows when they are to be written. -/
  | nowhere
deriving Repr, DecidableEq

/-- The destination of what is joined to the option. -/
def Destination.ofJoined (release : Release) (text : String) : Destination :=
  if release = .early ∧ text = "--" then nowhere else named text

/-- What a command line asks for. -/
inductive Command where
  | help
  /-- To measure and to write the results. -/
  | measure (output : Destination)
deriving Repr, DecidableEq

/-- What an early release refuses of the rest of the word of the short option, unless that only
repeats the option. -/
def earlyRest? (rest : String) : Option String :=
  if rest.isEmpty then some rest
  else match rest.toList.dropWhile (· == 'h') with
    | [] => none
    | cs => some (String.ofList cs)

/-- What a late release refuses of the letters behind the short option. -/
def lateRest? : List Char → Option String
  | 'h' :: '=' :: cs => some (String.ofList cs)
  | 'h' :: cs => lateRest? cs
  | '-' :: cs => some (String.ofList ('-' :: cs))
  | _ => none

/-- What is refused of the rest of the word of the short option. -/
def Release.refusedRest? (release : Release) (joined : Bool) (rest : String) : Option String :=
  match release with
  | early => earlyRest? rest
  | late => if joined then some rest else lateRest? rest.toList

/-- Takes words from left to right, with the place and the unknown words met so far. -/
def Command.ofWords (release : Release) (output : Destination) (others : List String) :
    List Word → Except Refusal Command
  | [] => if others.isEmpty then .ok (.measure output) else .error (.unrecognized others)
  | .plain text :: ws => ofWords release output (others ++ [text]) ws
  | .unknown text :: ws => ofWords release output (others ++ [text]) ws
  | .divider :: ws => ofWords release output (others ++ ["--"]) ws
  | .option .help none :: _ => .ok .help
  | .option .help (some text) :: _ => .error (.ignoredValue text)
  | .shortHelp joined rest :: _ =>
    match release.refusedRest? joined rest with
    | none => .ok .help
    | some text => .error (.ignoredValue text)
  | .option .output (some text) :: ws => ofWords release (.ofJoined release text) others ws
  | .option .output none :: .plain text :: ws => ofWords release (.named text) others ws
  | .option .output none :: _ => .error .missingValue

/-- Reads a command line. -/
def Command.read (release : Release) (texts : List String) : Except Refusal Command :=
  match Word.readAll texts with
  | .error r => .error r
  | .ok words => Command.ofWords release .standard [] words

/-! ## Help -/

/-- How the program is used. -/
def usage : String :=
  "usage: benchmark.py [-h] [--output OUTPUT]\n"

/-- The help. -/
def helpText : String :=
  usage ++ "\nRun code_generator benchmarks\n\noptions:\n"
    ++ "  -h, --help       show this help message and exit\n"
    ++ "  --output OUTPUT  Output file for benchmark results\n"

/-- What is told of a refusal. -/
def Refusal.report (r : Refusal) : String :=
  usage ++ "benchmark.py: error: " ++ r.message ++ "\n"

end StubClass.Benchmark
