import StubClass.Session.Term
import StubClass.Session.View

set_option autoImplicit false

/-! # Operations of a session

The operations that a session is made of, those that hold further steps left aside: each is run in a
world and gives an answer. Answers show objects as trees. -/

namespace StubClass

/-- What a step of a session comes to. -/
inductive Answer where
  | done
  | flag (b : Bool)
  | value (t : Tree)
  | text (text : String)
  | builder (b : BuilderView)
  | definition (d : DefinitionView)
  | generator (g : GeneratorView)
  | classInfo (info : ClassView)
  | stubInfo (info : StubView)
  | stubRows (rows : List StubRow)
  | log (lines : List String)

/-! ## Operations -/

/-- A term for a random source. -/
inductive SourceTerm where
  | seeded (seed : Term)
  | fixed (offset : Int) (fill : String)
  | system

/-- A term for a parameter: its kind, its name, and a default. -/
structure ParameterTerm where
  kind : Term
  name : Term
  default : Option Term

/-- A term for a definition. -/
structure DefinitionTerm where
  name : Term
  visibility : Visibility
  parameters : Option (List ParameterTerm)
  returnValue : Option Term
  generateRandom : Option Bool

/-- A term for the arguments of a call, with the code that calls and a name for the result. -/
structure CallTerm where
  positional : List Term
  keywords : List (String × Term)
  caller : Option String
  result : Option String

/-- Where the resolver of a member made outside of a class comes from. -/
inductive ResolverTerm where
  | literal (t : Term)
  | source (name : String) (settings : SettingsTerm)

/-- What a message is sent to. -/
inductive TargetTerm where
  | stored (name : String)
  | value (t : Term)

/-- Who asks for access. -/
inductive CallerTerm where
  | code (label : String)
  | outside
  | nobody

/-- An operation without further steps. -/
inductive Operation where
  | letValue (result : String) (t : Term)
  | append (list : String) (t : Term)
  | makeSource (result : String) (source : SourceTerm)
  | draw (source function : String) (arguments : List Term)
  | requests (source : String)
  | makeBuilder (result : String) (name visibility : Term)
  | showBuilder (builder : String)
  | freeze (builder result : String)
  | makeDefinition (result : String) (definition : DefinitionTerm)
  | showDefinition (definition : String)
  | makeGenerator (result : String) (settings : Option SettingsTerm) (source : Option String)
  | build (generator result : String)
  | buildClass (result : String) (definitions : List String) (settings : SettingsTerm)
      (source : String)
  | showGenerator (generator : String)
  | takeLog
  | makeInstance (cls result : String)
  | derive (result name : String) (bases : List String) (members : List (String × MemberTerm))
  | attach (cls name : String) (member : MemberTerm)
  | assign (target name : String) (t : Term)
  | remove (target name : String)
  | has (target name : String)
  | same (a b : String)
  | call (target name : String) (call : CallTerm)
  | keep (target name result : String)
  | callKept (kept : String) (call : CallTerm)
  | send (target : TargetTerm) (name : String) (call : CallTerm)
  | signature (target name : String)
  | describe (cls name : String)
  | classInfo (cls : String)
  | stubRows (cls : String)
  | visibilityOf (cls name : String)
  | checkAccess (definition cls : String) (caller : CallerTerm)
  | makeMember (result definition : String) (resolver : ResolverTerm)
  | showMember (member : String)
  | invokeMember (member : String) (call : CallTerm)
  | callMember (member : String) (call : CallTerm)

/-! ## Parts -/

/-- The arguments of a call, those by position first. -/
def CallTerm.operands (c : CallTerm) : Run Operands := do
  let xs ← Term.evaluateAll c.positional
  return ⟨xs, ← keywordsOf c.keywords⟩

/-- Runs a part as the code that calls. -/
def CallTerm.calling {α : Type} (c : CallTerm) (r : Run α) : Run α := do
  match c.caller with
  | none => r
  | some label => do within (some (← labelledCode label)) r

/-- Stores the result of a call where it is asked for, and shows it. -/
def CallTerm.finish (c : CallTerm) (x : Obj) : Run Answer := do
  match c.result with
  | some name => store name x
  | none => pure ()
  return .value (← shown x)

/-- Calls an object with the arguments of a call. -/
def CallTerm.run (c : CallTerm) (f : Obj) : Run Answer := do
  let a ← c.operands
  c.finish (← c.calling (call f a))

/-- Parameters from terms. -/
def evaluateParameters : List ParameterTerm → Run (List Obj)
  | [] => return []
  | t :: ts => do
    let kind ← t.kind.evaluate
    let name ← t.name.evaluate
    let p ← construct .parameter (kind :: name :: (← Term.evaluateOption t.default)) []
    return p :: (← evaluateParameters ts)

/-- The definition of a term. -/
def DefinitionTerm.evaluate (t : DefinitionTerm) : Run Obj := do
  let name ← t.name.evaluate
  let visibility ← apply (.type .visibility) [.word t.visibility.word]
  let parameters ← match t.parameters with
    | none => pure []
    | some ts => do pure [("parameters", ← newTuple (← evaluateParameters ts))]
  let returned := (← Term.evaluateOption t.returnValue).map fun x => ("return_value", x)
  let random := t.generateRandom.toList.map fun b => ("generate_random", Obj.bool b)
  construct .definition [] ([("name", name), ("visibility", visibility)] ++ parameters ++ returned
    ++ random)

/-- The source of a term. -/
def SourceTerm.evaluate : SourceTerm → Run Obj
  | seeded seed => do construct .seededSource [← seed.evaluate] []
  | fixed offset fill => do
    let n ← newInt offset
    construct .fixedSource [n, ← newText fill] []
  | system => construct .systemSource [] []

/-- What a generator is made with. -/
def generatorArguments (settings : Option SettingsTerm) (source : Option String) :
    Run (List (Obj × Obj)) := do
  let given ← match settings with
    | none => pure []
    | some t => do pure [(Obj.word "config", ← evaluateSettings t)]
  match source with
  | none => return given
  | some name => return given ++ [(.word "random_source", ← objectNamed name)]

/-- The entries of what a class will hold. -/
def evaluateMembers : List (String × MemberTerm) → Run (List (String × Obj))
  | [] => return []
  | (name, t) :: rest => do
    let m ← t.evaluate
    return (name, m) :: (← evaluateMembers rest)

/-- The name of the module that classes are made in by a session. -/
def sessionModule : String := "driver"

/-- Makes a class from bases and members. -/
def deriveClass (name : String) (bases : List Obj) (members : List (String × Obj)) : Run Obj := do
  let own := (("__module__", .word sessionModule) :: members).foldl
    (fun (t : Table) m => t.put m.1 m.2) []
  let bases ← newTuple bases
  apply (.type .type) [← newText name, bases, ← newDict own]

/-- Makes the member of a definition outside of a class. -/
def makeOutside (definition : Obj) : ResolverTerm → Run Obj
  | .literal t => do
    let x ← t.evaluate
    makeMember definition (← newFunction (← literalCode) [x] outsideModule)
  | .source name settings => do
    let settings ← evaluateSettings settings
    let source ← objectNamed name
    makeMember definition (← makeResolver definition source settings)

/-- Who asks for access, by the code that it runs. -/
def CallerTerm.evaluate : CallerTerm → Run Caller
  | code label => do return some (some (← labelledCode label))
  | outside => return some none
  | nobody => return none

/-! ## Running -/

/-- Runs an operation. -/
def Operation.run : Operation → Run Answer
  | letValue result t => do
    store result (← t.evaluate)
    return .done
  | append list t => do
    let x ← objectNamed list
    let _ ← callingAttribute x "append" (do return [← t.evaluate])
    return .value (← shown x)
  | makeSource result source => do
    store result (← source.evaluate)
    return .done
  | draw source function arguments => do
    let f ← take (← objectNamed source) function
    return .value (← shown (← apply f (← Term.evaluateAll arguments)))
  | requests source => do return .value (← shownAttribute (← objectNamed source) "calls")
  | makeBuilder result name visibility => do
    let name ← name.evaluate
    store result (← construct .builder [name, ← visibility.evaluate] [])
    return .done
  | showBuilder builder => do return .builder (← viewBuilder (← objectNamed builder))
  | freeze builder result => do
    let d ← callAttribute (← objectNamed builder) "freeze" []
    store result d
    return .definition (← viewDefinition d)
  | makeDefinition result t => do
    let d ← t.evaluate
    store result d
    return .definition (← viewDefinition d)
  | showDefinition definition => do
    return .definition (← viewDefinition (← objectNamed definition))
  | makeGenerator result settings source => do
    store result (← StubClass.call (.type .generator) ⟨[], ← generatorArguments settings source⟩)
    return .done
  | build generator result => do
    store result (← callAttribute (← objectNamed generator) "build" [])
    return .done
  | buildClass result definitions settings source => do
    let ds ← newList (← definitions.mapM objectNamed)
    let settings ← evaluateSettings settings
    store result (← within none (StubClass.buildClass ds settings (← objectNamed source)))
    return .done
  | showGenerator generator => do
    return .generator (← viewGenerator (← objectNamed generator))
  | takeLog => do
    let lines := (← get).log
    modify fun w => { w with log := [] }
    return .log lines
  | makeInstance cls result => do
    store result (← apply (← objectNamed cls) [])
    return .done
  | derive result name bases members => do
    let bases ← bases.mapM objectNamed
    store result (← deriveClass name bases (← evaluateMembers members))
    return .done
  | attach cls name member => do
    let c ← objectNamed cls
    StubClass.assign c name (some (← member.evaluate))
    return .done
  | assign target name t => do
    let x ← objectNamed target
    StubClass.assign x name (some (← t.evaluate))
    return .done
  | remove target name => do
    StubClass.assign (← objectNamed target) name none
    return .done
  | has target name => do return .flag (← take? (← objectNamed target) name).isSome
  | same a b => do
    let x ← objectNamed a
    let y ← objectNamed b
    return .flag ((← get).identical x y)
  | call target name c => do c.run (← take (← objectNamed target) name)
  | keep target name result => do
    store result (← take (← objectNamed target) name)
    return .done
  | callKept kept c => do c.run (← objectNamed kept)
  | send target name c => do
    let x ← match target with
      | .stored name => objectNamed name
      | .value t => t.evaluate
    c.finish (← within none (StubClass.send x name (← c.operands)))
  | signature target name => do
    return .text (← plainText (← signatureOf (← take (← objectNamed target) name)))
  | describe cls name => do
    let members ← stubMembers (← objectNamed cls)
    return .stubInfo (← viewStub (← partUnder members (.word name)))
  | classInfo cls => do return .classInfo (← viewClass (← objectNamed cls))
  | stubRows cls => do
    let members ← stubMembers (← objectNamed cls)
    let entries := ((← get).tableOf members).map fun e => (e.key, e.value)
    return .stubRows (← viewMembers entries)
  | visibilityOf cls name => do
    let v ← StubClass.visibilityOf (← objectNamed cls) (.word name)
    return .value (← shownAttribute v "value")
  | checkAccess definition cls caller => do
    let d ← objectNamed definition
    let owner ← objectNamed cls
    StubClass.checkAccess d owner (← caller.evaluate)
    return .done
  | makeMember result definition resolver => do
    let s ← makeOutside (← objectNamed definition) resolver
    store result s
    return .stubInfo (← viewStub s)
  | showMember member => do return .stubInfo (← viewStub (← objectNamed member))
  | invokeMember member c => do
    let a ← packed (← c.operands)
    let f ← take (← objectNamed member) "invoke"
    c.finish (← apply f a)
  | callMember member c => do c.run (← take (← objectNamed member) "function")

end StubClass
