import StubClass.Parameter

set_option autoImplicit false

/-! # Signatures

A signature is a list of slots in the order in which a call fills them: those filled by position
only, those filled by position or keyword, those filled by keyword only. Among the slots of one way
of passing that go by position none without a default follows one with a default, and no two slots
share a name. `Signature.ofSlots` accepts exactly such lists, slot by slot, and names the first rule
that a list breaks. -/

namespace StubClass

/-- One place of a signature. -/
structure Slot where
  passing : Passing
  name : Identifier
  default : Option Value
deriving Repr

/-- The slot of a declared parameter: only an applied default shows. -/
def Parameter.slot (p : Parameter) : Slot where
  passing := if p.kind.isKeyword then .keywordOnly else .positional
  name := p.name
  default := if p.effectiveKind.hasDefault then some p.default else none

/-- The slot in short: its name, and its default after an equals sign. -/
def Slot.chars (s : Slot) : List Char :=
  match s.default with
  | none => s.name.text.toList
  | some v => s.name.text.toList ++ '=' :: v.chars

/-- The signature of a callable. -/
structure Signature where
  slots : List Slot
deriving Repr

namespace Signature

/-! ## Forming -/

/-- Checks the slots from one on: `top` is the way of passing reached so far, `defaulted` says
whether a slot of that way had a default, `seen` holds the names so far. -/
def scan : (top : Passing) → (defaulted : Bool) → (seen : List Name) → List Slot →
    Except SignatureFault Unit
  | _, _, _, [] => .ok ()
  | top, defaulted, seen, s :: rest =>
    if s.passing.rank < top.rank then .error (.wrongOrder top s.passing)
    else
      let byPosition := s.passing != .keywordOnly
      let defaulted := defaulted && s.passing == top
      if byPosition && s.default.isNone && defaulted then .error .requiredAfterDefault
      else if seen.any (Name.same s.name.toName) then .error (.duplicate s.name.toName)
      else scan s.passing (defaulted || byPosition && s.default.isSome) (s.name.toName :: seen) rest

/-- The signature of a list of slots. -/
def ofSlots (slots : List Slot) : Except SignatureFault Signature :=
  (scan .positionalOnly false [] slots).map fun _ => ⟨slots⟩

/-! ## Writing -/

/-- The slots that are passed in one way. -/
def passed (s : Signature) (how : Passing) : List Slot :=
  s.slots.filter fun slot => slot.passing == how

/-- The parts of the written signature: a slash ends the slots that go by position only, and a star
stands before those that go by keyword only. -/
def parts (s : Signature) : List (List Char) :=
  let only := (s.passed .positionalOnly).map Slot.chars
  let named := (s.passed .keywordOnly).map Slot.chars
  only ++ (if only.isEmpty then [] else [['/']]) ++ (s.passed .positional).map Slot.chars
    ++ (if named.isEmpty then [] else ['*'] :: named)

/-- The written signature. -/
def chars (s : Signature) : List Char :=
  '(' :: (Value.commaSeparated s.parts ++ [')'])

/-- The written signature, as a string. -/
def text (s : Signature) : String :=
  String.ofList s.chars

end Signature

end StubClass
