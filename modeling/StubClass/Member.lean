import StubClass.Class.Landscape
import StubClass.Method.Return
import StubClass.Stub

set_option autoImplicit false

/-! # Calls of members

A member that a class holds knows what resolves its return value, whether it is bound to classes or
to their instances, and, once the class is there, for which class it was made. It is called in one
of two ways: as an attribute, when the classes that are there at that time decide whether the caller
may, or from inside, when it only has to be at hand on what it is called on. What a call comes to
then depends on how many arguments it gives by position and which by keyword, and on the answer of
the source if the member returns random values; on the arguments themselves it does not depend. -/

namespace StubClass

open StubClass.Random (Source)

namespace Stub

/-- A member holds the definition that it was made of. -/
theorem definition_of_create {d : MethodDefinition} {s : Stub} (h : create d = .ok s) :
    s.definition = d := by
  unfold create at h
  split at h
  · cases h
  · split at h
    · cases h
    · split at h
      · cases h
      · split at h
        · cases h
        · cases h
          rfl

end Stub

/-- A member that a class holds. -/
structure Member extends Stub where
  created : Stub.create definition = .ok toStub
  resolver : Resolver
  /-- Whether the member is bound to classes and not to their instances. -/
  bindsToClass : Bool
  /-- The place of the class that the member was made for. -/
  owner : Option Nat

namespace Member

/-- The member of a definition within settings, before it has a class. -/
def create (settings : Settings) (d : MethodDefinition) : Except Error Member :=
  match h : Stub.create d with
  | .error e => .error e
  | .ok s =>
    .ok
      { toStub := s
        created := by rw [Stub.definition_of_create h]; exact h
        resolver := d.resolver settings
        bindsToClass := d.visibility.isClassLevel
        owner := none }

/-- The type of the member. -/
def builtinType (x : Member) : BuiltinType :=
  if x.bindsToClass then .stubClassMethod else .stubMethod

end Member

/-! ## Ways of calling -/

/-- What is there when a member is called as an attribute. -/
structure Scene where
  landscape : RaisingLandscape
  /-- The object that a built class is. -/
  classAt : Nat → Fin landscape.size
  /-- The class of what the member is called on. -/
  receiver : Fin landscape.size
  caller : Code

/-- What a member is called on from inside, by what it answers when it is asked. -/
structure Target where
  isClass : Except Error Bool
  literal : Except Error String

/-- A way of calling a member. -/
inductive Way where
  /-- As an attribute. -/
  | call (scene : Scene)
  /-- From inside, by a name. -/
  | send (target : Target) (name : Name)

namespace Scene

/-- The class that a member is guarded for: the one that it was made for, or else that of what it is
called on. -/
def owner (scene : Scene) (x : Member) : Fin scene.landscape.size :=
  match x.owner with
  | some place => scene.classAt place
  | none => scene.receiver

/-- Fails unless the caller may call a member. -/
def check (scene : Scene) (x : Member) : Except Error Unit :=
  scene.landscape.checkAccess x.definition (scene.owner x) (some scene.caller)

end Scene

/-- Fails unless a member is at hand on what it is called on. -/
def Target.check (target : Target) (name : Name) (x : Member) : Except Error Unit := do
  if x.bindsToClass != (← target.isClass) then
    let what := if x.bindsToClass then "Class" else "Instance"
    throw (.ordinary .noAttribute (what ++ " method " ++ name.toValue.literal
      ++ " is not callable on " ++ (← target.literal)))
  else return ()

/-- Fails unless a member may be called in a way. -/
def Way.check (x : Member) : Way → Except Error Unit
  | call scene => scene.check x
  | send target name => target.check name x

/-- What a call of a member comes to when objects have a certain look. -/
def Member.perform (x : Member) (look : Look) (way : Way) (a : Arguments) :
    StateM Source (Except Error Value) :=
  match way.check x with
  | .error e => return .error e
  | .ok () => x.invoke look x.resolver.resolve a

end StubClass
