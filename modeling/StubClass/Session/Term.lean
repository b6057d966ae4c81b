import StubClass.Library.Dispatch
import StubClass.Library.Prelude

set_option autoImplicit false

/-! # Terms

What a step of a session is given is written as a term: a literal, which is planted anew each time
that the step is run, or the name of an object that was stored. Settings and members have terms of
their own. -/

namespace StubClass

/-- A term for an object. -/
inductive Term where
  | literal (v : Value)
  | list (ts : List Term)
  | tuple (ts : List Term)
  | dict (entries : List (Term × Term))
  | stored (name : String)
deriving Repr, Inhabited

namespace Term

mutual

/-- The object of a term. -/
def evaluate : Term → Run Obj
  | literal v => plant v
  | list ts => do newList (← evaluateAll ts)
  | tuple ts => do newTuple (← evaluateAll ts)
  | dict es => do newDict (← evaluateEntries [] es)
  | stored name => objectNamed name

/-- The objects of several terms. -/
def evaluateAll : List Term → Run (List Obj)
  | [] => return []
  | t :: ts => do
    let x ← t.evaluate
    return x :: (← evaluateAll ts)

/-- The entries of a dictionary, put to those of a table. -/
def evaluateEntries (before : Table) : List (Term × Term) → Run Table
  | [] => return before
  | e :: es => do
    let (key, x) ← evaluateEntry e
    evaluateEntries (← putUnder before key x) es

/-- An entry of a dictionary. -/
def evaluateEntry : Term × Term → Run (Obj × Obj)
  | (key, value) => do
    let k ← key.evaluate
    return (k, ← value.evaluate)

end

mutual

/-- Whether a term names stored objects. -/
def namesStored : Term → Bool
  | literal _ => false
  | list ts | tuple ts => anyNamesStored ts
  | dict es => anyEntryNamesStored es
  | stored _ => true

/-- Whether one of several terms names stored objects. -/
def anyNamesStored : List Term → Bool
  | [] => false
  | t :: ts => t.namesStored || anyNamesStored ts

/-- Whether an entry of a dictionary names stored objects. -/
def anyEntryNamesStored : List (Term × Term) → Bool
  | [] => false
  | (key, value) :: es => key.namesStored || value.namesStored || anyEntryNamesStored es

end

/-- The objects of a term that may be left out: one or none. -/
def evaluateOption : Option Term → Run (List Obj)
  | none => return []
  | some t => return [← t.evaluate]

end Term

/-- Objects by keyword from terms. A keyword that comes again gives its place another object. -/
def keywordsOf (ks : List (String × Term)) : Run (List (Obj × Obj)) := do
  let xs ← Term.evaluateAll (ks.map (·.2))
  let t := ((ks.map (·.1)).zip xs).foldl (fun (t : Table) k => t.put k.1 k.2) []
  return t.map fun e => (e.key, e.value)

/-! ## Settings -/

/-- A term for settings: the fields that are given. -/
abbrev SettingsTerm := List (String × Term)

/-- The settings of a term. No names are at hand where they are read. -/
def evaluateSettings (t : SettingsTerm) : Run Obj := do
  if t.any fun field => field.2.namesStored then
    throw (.badType "argument of type 'NoneType' is not iterable")
  call (.type .settings) ⟨[], ← keywordsOf t⟩

/-! ## Members -/

/-- A term for a member. -/
inductive MemberTerm where
  /-- A function of the code under a label, which may wrap a member. -/
  | function (label : String) (wraps : Option MemberTerm)
  /-- A function that wraps itself. -/
  | loop (label : String)
  /-- A plain object that wraps a member. -/
  | box (inner : MemberTerm)
  /-- An object that answers every attribute with itself. -/
  | echo
  | constant (t : Term)
  | value (t : Term)
  /-- An object of a type that stands around a member. -/
  | layer (t : BuiltinType) (inner : MemberTerm)
  | property (getter setter deleter : Option MemberTerm)
  /-- What a class holds itself under a name. -/
  | heldBy (cls : String) (name : String)
  | stored (name : String)
deriving Repr, Inhabited

namespace MemberTerm

mutual

/-- The member of a term. -/
def evaluate : MemberTerm → Run Obj
  | function label wraps => do
    let f ← newLabelled label
    match wraps with
    | none => return f
    | some t => do
      assign f "__wrapped__" (some (← t.evaluate))
      return f
  | loop label => do
    let f ← newLabelled label
    assign f "__wrapped__" (some f)
    return f
  | box inner => do
    let x ← makeOf .box .plain
    putOwn x "__wrapped__" (← inner.evaluate)
    return x
  | echo => makeOf .echo .plain
  | constant t => do newConstant (← t.evaluate)
  | value t => t.evaluate
  | layer t inner => do apply (.type t) [← inner.evaluate]
  | property getter setter deleter => do
    let g ← accessor getter
    let s ← accessor setter
    apply (.type .property) [g, s, ← accessor deleter]
  | heldBy cls name => do partUnder (← keptBy (← objectNamed cls)) (.word name)
  | stored name => objectNamed name

/-- The accessor of a term, or nothing. -/
def accessor : Option MemberTerm → Run Obj
  | none => return .none
  | some t => t.evaluate

end

end MemberTerm

end StubClass
