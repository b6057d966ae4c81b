import StubClass.Method.Builder
import StubClass.Settings

set_option autoImplicit false

/-! # Generators

A generator collects finished definitions, those of instance members and those of class members each
in the order in which they were finished. Classes are built from all of them within its settings. -/

namespace StubClass

/-- A collection of definitions that classes are built from. -/
structure Generator where
  settings : Settings
  methods : List MethodDefinition
  classMethods : List MethodDefinition
deriving Repr

/-- Whether a definition has a certain name. -/
def MethodDefinition.isNamed (d : MethodDefinition) (name : Name) : Bool :=
  d.name.text? == some name.text

namespace Generator

/-- The generator without definitions. -/
def empty (settings : Settings) : Generator :=
  ⟨settings, [], []⟩

/-- All definitions, those of instance members first. -/
def definitions (g : Generator) : List MethodDefinition :=
  g.methods ++ g.classMethods

/-- Whether a name is declared. -/
def declares (g : Generator) (name : Name) : Bool :=
  g.definitions.any fun d => d.isNamed name

/-- Appends a definition to those of its level. -/
def append (g : Generator) (d : MethodDefinition) : Generator :=
  if d.visibility.isClassLevel then { g with classMethods := g.classMethods ++ [d] }
  else { g with methods := g.methods ++ [d] }

end Generator

end StubClass
