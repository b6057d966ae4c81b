import StubClass.Object.Kind

set_option autoImplicit false

/-! # The room that objects take

How many bytes the objects of a class take, each of them and for each of its parts, where what they
keep is put, and which traits the class has. A class that was made takes over what its base says,
and adds what it has of its own. -/

namespace StubClass

/-- The room that the objects of a class take. -/
structure Room where
  /-- The bytes of an object. -/
  size : Nat
  /-- The bytes of each part, if an object takes more the more parts it has. -/
  part : Nat
  /-- Where its attributes are, counted from its end if that is negative. -/
  dictPlace : Int
  /-- Where what refers to it is. -/
  referencePlace : Nat
  /-- The traits of the class, each as a power of two. -/
  traits : Nat
deriving Repr, DecidableEq, Inhabited

/-- The room that the objects of a built-in type take. -/
def BuiltinType.room : BuiltinType → Room
  | .object => ⟨16, 0, 0, 0, 0x81500⟩
  | .type => ⟨904, 40, 264, 368, 0x80085d00⟩
  | .int => ⟨24, 4, 0, 0, 0x1481500⟩
  | .str => ⟨80, 0, 0, 0, 0x10481500⟩
  | .complex => ⟨32, 0, 0, 0, 0x81500⟩
  | .float => ⟨24, 0, 0, 0, 0x401500⟩
  | .list => ⟨40, 0, 0, 0, 0x2485520⟩
  | .dict => ⟨48, 0, 0, 0, 0x20485540⟩
  | .tuple => ⟨24, 8, 0, 0, 0x4485520⟩
  | .bytes => ⟨33, 1, 0, 0, 0x8481500⟩
  | .none => ⟨16, 0, 0, 0, 0x81100⟩
  | .bool => ⟨32, 4, 0, 0, 0x1481100⟩
  | .symbol => ⟨80, 0, 0, 0, 0x10405600⟩
  | .unknownOperand | .ellipsis => ⟨16, 0, 0, 0, 0x1100⟩
  | .set => ⟨200, 0, 0, 192, 0x485500⟩
  | .function => ⟨136, 0, 88, 96, 0xa5900⟩
  | .code => ⟨184, 2, 0, 144, 0x1100⟩
  | .method => ⟨48, 0, 0, 32, 0x5900⟩
  | .builtinMethod => ⟨56, 0, 0, 40, 0x85980⟩
  | .slotMethod | .listIterator | .tupleIterator | .asciiIterator | .textIterator | .bytesIterator
  | .typeUnion => ⟨32, 0, 0, 0, 0x5180⟩
  | .methodAttribute => ⟨56, 0, 0, 0, 0xa5980⟩
  | .slotAttribute => ⟨56, 0, 0, 0, 0xa5180⟩
  | .computedAttribute | .fieldAttribute => ⟨48, 0, 0, 0, 0x85180⟩
  | .classAttribute | .keyIterator | .entryIterator => ⟨56, 0, 0, 0, 0x85180⟩
  | .classMethod | .staticMethod => ⟨32, 0, 24, 0, 0x85500⟩
  | .property => ⟨64, 0, 0, 0, 0x85500⟩
  | .partialCall => ⟨64, 0, 40, 48, 0x5f00⟩
  | .cachedProperty | .partialMethod | .parameterKind | .visibility | .noDefault | .leftOut |
  .fixedSource | .box | .echo => ⟨24, 0, -48, 16, 0x5610⟩
  | .stubMethod | .stubClassMethod | .generator | .builder | .definition => ⟨56, 0, 0, 0, 0x5600⟩
  | .parameter => ⟨40, 0, 0, 0, 0x5600⟩
  | .settings | .signatureParameter => ⟨48, 0, 0, 0, 0x5600⟩
  | .choice | .choiceProperty | .writtenChoice => ⟨24, 0, -48, 16, 0x85610⟩
  | .choiceType => ⟨904, 40, 264, 368, 0x80085600⟩
  | .signature | .seededSource => ⟨32, 0, 0, 0, 0x5600⟩
  | .boundArguments => ⟨40, 0, 0, 32, 0x5600⟩
  | .parameterPassing | .numberChoice => ⟨32, 4, -8, 0, 0x1485600⟩
  | .randomCore => ⟨2520, 0, 0, 0, 0x81600⟩
  | .randomGenerator => ⟨2528, 0, -2552, 2520, 0x85610⟩
  | .systemSource => ⟨16, 0, 0, 0, 0x5600⟩
  | .readOnlyDict => ⟨24, 0, 0, 0, 0x85140⟩
  | .keysView | .appliedIterator => ⟨24, 0, 0, 0, 0x5180⟩
  | .valuesView | .entriesView => ⟨24, 0, 0, 0, 0x85180⟩
  | .listReverseIterator => ⟨32, 0, 0, 0, 0x85180⟩
  | .valueIterator | .keyReverseIterator | .valueReverseIterator | .entryReverseIterator =>
    ⟨56, 0, 0, 0, 0x5180⟩
  | .setIterator => ⟨48, 0, 0, 0, 0x5180⟩
  | .reversed => ⟨32, 0, 0, 0, 0x5500⟩
  | .producer => ⟨152, 8, 0, 24, 0x85180⟩
  | .module => ⟨56, 0, 16, 40, 0x85500⟩
  | .orderedDict => ⟨112, 0, 96, 104, 0x20485540⟩
  | .orderedKeys | .orderedValues | .orderedEntries | .cell => ⟨24, 0, 0, 0, 0x5100⟩
  | .orderedIterator => ⟨64, 0, 0, 0, 0x5180⟩
  | .appliedType => ⟨64, 0, 0, 40, 0x85d00⟩

namespace Room

/-- The bytes of a reference to an object. -/
def word : Nat := 8

/-- The trait of classes that are made while a program runs. -/
def madeTrait : Nat := 0x200

/-- The trait of classes whose objects have their attributes in front of them. -/
def frontTrait : Nat := 0x10

/-- The traits of every class that was made. -/
def madeTraits : Nat := 0x5600

/-- The traits that a class takes over. -/
def inheritedTraits : Nat := 0xff400070

/-- The room of a class from that of its base. -/
def derive (r : Room) (slots : Nat) (opensDict opensReferences : Bool) : Room :=
  let end_ := r.size + word * slots
  let isBehind := opensDict && 0 < r.part
  let end_ := if isBehind then end_ + word else end_
  let size := if opensReferences then end_ + word else end_
  { size, part := r.part,
    dictPlace :=
      if isBehind then -8 else if opensDict then -((size : Int) + 24) else r.dictPlace,
    referencePlace := if opensReferences then end_ else r.referencePlace,
    traits := madeTraits ||| (r.traits &&& inheritedTraits)
      ||| (if opensDict && !isBehind then frontTrait else 0) }

/-- Whether a class has a trait. -/
def has (r : Room) (trait : Nat) : Bool :=
  r.traits &&& trait != 0

/-- The bytes of the class itself. -/
def bytesOfClass (r : Room) : Nat :=
  if !r.has madeTrait then 408 else if r.has frontTrait then 1672 else 904

end Room

namespace World

/-- The room that the objects of a class take, along its bases; `fuel` bounds how many there are. -/
def roomAlong (w : World) : (fuel : Nat) → Obj → Room
  | 0, _ => BuiltinType.object.room
  | fuel + 1, c =>
    match c, w.class? c with
    | .type t, _ => t.room
    | _, some b => (w.roomAlong fuel b.base).derive b.slots.length b.opensDict b.opensReferences
    | _, none => BuiltinType.object.room

/-- The room that the objects of a class take. -/
def roomOf (w : World) (c : Obj) : Room :=
  w.roomAlong (w.orderOf c).length c

/-- How many parts of a whole number there are, of thirty binary digits each. -/
def wholeParts (n : Int) : Nat :=
  if n == 0 then 0 else n.natAbs.log2 / 30 + 1

/-- How many parts an object has that take room in it. -/
def partCount (w : World) (x : Obj) : Nat :=
  match x, w.body x with
  | .bool b, _ => if b then 1 else 0
  | _, .int n => wholeParts n
  | _, .tuple xs => xs.length
  | _, .bytes bs => bs.length
  | _, _ => ((w.class? x).map fun b => b.slots.length).getD 0

/-- The bytes of an object with its parts. -/
def bytesOf (w : World) (x : Obj) : Nat :=
  let r := w.roomOf (w.typeOf x)
  r.size + r.part * (if r.part == 0 then 0 else w.partCount x)

end World

/-! ## Objects with parts elsewhere -/

/-- The bytes of a whole number. -/
def wholeBytes (n : Int) : Nat :=
  24 + 4 * max 1 (World.wholeParts n)

/-- The bytes of a text. -/
def textBytes (isPlain : Bool) (text : String) : Nat :=
  let greatest := text.foldl (fun n c => max n c.toNat) 0
  let each := if greatest < 256 then 1 else if greatest < 65536 then 2 else 4
  let front := if !isPlain then 80 else if greatest < 128 then 48 else 72
  front + each * (text.length + 1)

/-- The room for so many parts of a list that grew part by part. -/
def listRoom (n : Nat) : Nat :=
  (List.range n).foldl
    (fun room i => if i < room then room else (i + 1 + (i + 1) / 8 + 6) / 4 * 4) 0

/-- The number of places of a dictionary that grew entry by entry. -/
def tableRoom (n : Nat) : Nat :=
  (List.range n).foldl (fun room i => if i < room * 2 / 3 then room else grown (i * 3) 40 8) 8
where
  /-- The first power of two from a number on that is not smaller than another one. -/
  grown (least : Nat) : (fuel room : Nat) → Nat
    | 0, room => room
    | fuel + 1, room => if least ≤ room then room else grown least fuel (2 * room)

/-- The bytes of the entries of a dictionary. -/
def tableBytes (t : Table) : Nat :=
  if t.isEmpty then 0
  else
    let room := tableRoom t.length
    let isOfTexts := t.all fun e => match e.hash with
      | .text _ => true
      | _ => false
    let each := if room ≤ 128 then 1 else if room ≤ 32768 then 2 else 4
    32 + each * room + (if isOfTexts then 16 else 24) * (room * 2 / 3)

/-- The bytes of the order of a dictionary that keeps it apart. -/
def orderBytes (t : Table) : Nat :=
  if t.isEmpty then 0 else Room.word * tableRoom t.length + 32 * t.length

end StubClass
