set_option autoImplicit false

/-! # Visibility of generated members

A member belongs to the instances of its class or to the class itself, and may be called from
anywhere, from code of its class, or from code of its class and of the classes derived from it. -/

namespace StubClass

/-- The declared visibility of a member. -/
inductive Visibility where
  /-- An instance member, called from anywhere. -/
  | publicMember
  /-- An instance member, called from code of its class. -/
  | privateMember
  /-- An instance member, called from code of its class and of derived classes. -/
  | protectedMember
  /-- A member of the class itself, called from anywhere. -/
  | publicClass
  /-- A member of the class itself, called from code of its class. -/
  | privateClass
deriving Repr, DecidableEq, Inhabited

namespace Visibility

/-- All visibilities, in the order of their declaration. -/
def all : List Visibility :=
  [publicMember, privateMember, protectedMember, publicClass, privateClass]

/-- The word that stands for a visibility in declarations. -/
def word : Visibility → String
  | publicMember => "public"
  | privateMember => "private"
  | protectedMember => "protected"
  | publicClass => "public_class"
  | privateClass => "private_class"

/-- The name of the visibility as a constant. -/
def constant : Visibility → String
  | publicMember => "PUBLIC"
  | privateMember => "PRIVATE"
  | protectedMember => "PROTECTED"
  | publicClass => "PUBLIC_CLASS"
  | privateClass => "PRIVATE_CLASS"

/-- The visibility that a word stands for. -/
def ofWord? (word : String) : Option Visibility :=
  all.find? fun v => v.word == word

/-- Whether the member is bound to the class and not to its instances. -/
def isClassLevel : Visibility → Bool
  | publicClass | privateClass => true
  | publicMember | privateMember | protectedMember => false

/-- Whether the member may be called from anywhere. -/
def isPublic : Visibility → Bool
  | publicMember | publicClass => true
  | privateMember | protectedMember | privateClass => false

/-- The visibility in a refused call, where the level of the member plays no part. -/
def accessWord : Visibility → String
  | publicMember | publicClass => "public"
  | privateMember | privateClass => "private"
  | protectedMember => "protected"

/-- The name of the implicit first parameter. -/
def receiverName (v : Visibility) : String :=
  if v.isClassLevel then "cls" else "self"

theorem ofWord?_word (v : Visibility) : ofWord? v.word = some v := by
  cases v <;> decide

end Visibility

end StubClass
