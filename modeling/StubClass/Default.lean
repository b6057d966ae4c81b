import StubClass.Parameter

set_option autoImplicit false

/-! # Defaults of any kind

A default need not be a value. It may be any class, or a member of any enumeration, and it may be an
instance of a class that is derived from a built-in type, as the members of an enumeration are that
mixes in such a type. An instance of such a class is equal to what an instance of the built-in type
is equal to, and can be hashed when that can; what cannot be hashed is told by the name of its own
class. Classes and members of other enumerations are equal to themselves, and to what they say
themselves when their class compares them in a way of its own. -/

namespace StubClass

/-- Whether a value has no parts. -/
def Value.isLeaf : Value → Bool
  | list _ | tuple _ | dict _ => false
  | _ => true

/-- What a default may be, besides a number of classes and members of enumerations. -/
inductive Default (τ : Type) where
  /-- A value without parts, or an instance of a class that is derived from its type. -/
  | leaf (v : Value) (h : v.isLeaf = true)
  /-- A list, as an instance of the class of that name. -/
  | list (title : String) (xs : List (Default τ))
  /-- A tuple, or an instance of a class that is derived from tuples. -/
  | tuple (xs : List (Default τ))
  /-- A dictionary, as an instance of the class of that name. -/
  | dict (title : String) (entries : List (Default τ × Default τ))
  /-- A class or a member of an enumeration. -/
  | thing (t : τ)

/-- What classes and members of enumerations have to say about themselves. -/
structure Things (τ : Type) where
  /-- Whether a thing says that it is equal to something. -/
  equal : τ → Default τ → Bool
  /-- The name of the class of a thing that cannot be hashed. -/
  unhashable? : τ → Option String

namespace Default

variable {τ : Type} [DecidableEq τ] (W : Things τ)

/-! ## Equality -/

mutual

/-- Whether two defaults are equal. A thing is asked, unless it is compared with itself. -/
def equal : Default τ → Default τ → Bool
  | leaf v h, y => match y with
    | leaf w _ => v.equalLeaf w
    | thing u => W.equal u (leaf v h)
    | _ => false
  | list title xs, y => match y with
    | list _ ys => equalAll xs ys
    | thing u => W.equal u (list title xs)
    | _ => false
  | tuple xs, y => match y with
    | tuple ys => equalAll xs ys
    | thing u => W.equal u (tuple xs)
    | _ => false
  | dict title es, y => match y with
    | dict _ fs => es.length == fs.length && entriesIn es fs
    | thing u => W.equal u (dict title es)
    | _ => false
  | thing t, y => match y with
    | thing u => t == u || W.equal t (thing u)
    | y => W.equal t y

/-- Whether two lists of defaults are equal part by part. -/
def equalAll : List (Default τ) → List (Default τ) → Bool
  | [], ys => ys.isEmpty
  | x :: xs, ys => match ys with
    | [] => false
    | y :: ys => x.equal y && equalAll xs ys

/-- Whether every entry of the first dictionary is one of the second. -/
def entriesIn : List (Default τ × Default τ) → List (Default τ × Default τ) → Bool
  | [], _ => true
  | entry :: es, fs => entryIn entry fs && entriesIn es fs

/-- Whether the dictionary has an entry with an equal key and an equal value. -/
def entryIn : Default τ × Default τ → List (Default τ × Default τ) → Bool
  | (key, value), fs => fs.any fun f => key.equal f.1 && value.equal f.2

end

/-! ## Hashing -/

mutual

/-- The first part of a default that cannot be hashed. -/
def unhashablePart? : Default τ → Option (Default τ)
  | leaf _ _ => none
  | list title xs => some (list title xs)
  | tuple xs => unhashablePartIn? xs
  | dict title es => some (dict title es)
  | thing t => if (W.unhashable? t).isSome then some (thing t) else none

/-- The first part of several defaults that cannot be hashed. -/
def unhashablePartIn? : List (Default τ) → Option (Default τ)
  | [] => none
  | x :: xs => x.unhashablePart?.or (unhashablePartIn? xs)

end

/-- The name of the class of what cannot be hashed itself. -/
def title? : Default τ → Option String
  | list title _ | dict title _ => some title
  | thing t => W.unhashable? t
  | _ => none

/-- Whether a default is no list or dictionary of a derived class. -/
def isOfBuiltinType : Default τ → Bool
  | list title _ => title == BuiltinType.list.name
  | dict title _ => title == BuiltinType.dict.name
  | _ => true

/-- The name of the class of the first part of a default that cannot be hashed. -/
def unhashable? (x : Default τ) : Option String :=
  (x.unhashablePart? W).bind (title? W)

end Default

/-! ## Values -/

namespace Value

variable {τ : Type}

mutual

/-- A value as a default. -/
def toDefault : Value → Default τ
  | list xs => .list BuiltinType.list.name (toDefaults xs)
  | tuple xs => .tuple (toDefaults xs)
  | dict es => .dict BuiltinType.dict.name (toDefaultEntries es)
  | null => .leaf null rfl
  | bool b => .leaf (bool b) rfl
  | int n => .leaf (int n) rfl
  | float x => .leaf (float x) rfl
  | str text => .leaf (str text) rfl
  | symbol text => .leaf (symbol text) rfl
  | bytes bs => .leaf (bytes bs) rfl
  | type t => .leaf (type t) rfl
  | kind k => .leaf (kind k) rfl
  | visibility v => .leaf (visibility v) rfl

/-- Values as defaults. -/
def toDefaults : List Value → List (Default τ)
  | [] => []
  | x :: xs => x.toDefault :: toDefaults xs

/-- The entries of a dictionary as defaults. -/
def toDefaultEntries : List (Value × Value) → List (Default τ × Default τ)
  | [] => []
  | e :: es => toDefaultEntry e :: toDefaultEntries es

/-- An entry of a dictionary as defaults. -/
def toDefaultEntry : Value × Value → Default τ × Default τ
  | (key, value) => (key.toDefault, value.toDefault)

end

end Value

/-! ## Parameters -/

/-- One formal parameter of a generated member, with a default of any kind. -/
structure AnyParameter (τ : Type) where
  kind : ParameterKind
  name : Identifier
  default : Default τ

namespace AnyParameter

variable {τ : Type} [DecidableEq τ] (W : Things τ)

/-- Whether two parameters are equal: the same kind, the same name and equal defaults. -/
def equal (p q : AnyParameter τ) : Bool :=
  p.kind == q.kind && p.name.toName.same q.name.toName && p.default.equal W q.default

/-- The name of the class of the first part of a parameter that cannot be hashed. -/
def unhashable? (p : AnyParameter τ) : Option String :=
  p.default.unhashable? W

end AnyParameter

/-- A parameter with a value as its default. -/
def Parameter.toAny {τ : Type} (p : Parameter) : AnyParameter τ :=
  ⟨p.kind, p.name, p.default.toDefault⟩

end StubClass
