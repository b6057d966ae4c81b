import StubClass.Text.Clip
import StubClass.Value.Text

set_option autoImplicit false

/-! # Places in a tree of directories

A place is written as names with slashes between them. Empty names and single dots say nothing and
are left out; two dots are kept, since what they lead to depends on the directories. Writing to a
place succeeds if every name before the last leads to a directory and the last does not. -/

namespace StubClass.Benchmark

/-! ## Places -/

/-- A place: the slashes it starts with, and names. -/
structure Place where
  root : List Char
  names : List (List Char)
deriving Repr, DecidableEq

/-- The characters between slashes. -/
def segments : List Char → List (List Char)
  | [] => [[]]
  | '/' :: cs => [] :: segments cs
  | c :: cs =>
    match segments cs with
    | [] => [[c]]
    | s :: rest => (c :: s) :: rest

namespace Place

/-- Whether a name leads anywhere. -/
def isTelling (name : List Char) : Bool :=
  name != [] && name != ['.']

/-- The slashes that a place starts with: just two stay two, and more are as one. -/
def rootOf (cs : List Char) : List Char :=
  match (cs.takeWhile (· == '/')).length with
  | 0 => []
  | 2 => ['/', '/']
  | _ => ['/']

/-- Reads a place. -/
def ofText (text : String) : Place :=
  ⟨rootOf text.toList, (segments text.toList).filter isTelling⟩

/-- Names with slashes between them. -/
def joined : List (List Char) → List Char
  | [] => []
  | [name] => name
  | name :: next :: rest => name ++ '/' :: joined (next :: rest)

/-- A place in writing. That of no names is a dot. -/
def text (p : Place) : String :=
  match p.root ++ joined p.names with
  | [] => "."
  | cs => String.ofList cs

end Place

/-! ## Directories -/

/-- A point in the tree of directories, by the way to it: from the root or from the working
directory, some steps up and then down along names. -/
structure Point where
  fromRoot : Bool
  up : Nat
  names : List (List Char)
deriving Repr, DecidableEq

namespace Point

/-- The point above. Above the root is the root. -/
def parent (p : Point) : Point :=
  match p.names with
  | [] => if p.fromRoot then p else { p with up := p.up + 1 }
  | _ => { p with names := p.names.dropLast }

/-- The point below, by its name. -/
def child (p : Point) (name : List Char) : Point :=
  { p with names := p.names ++ [name] }

/-- Where a place starts. -/
def start (p : Place) : Point :=
  ⟨!p.root.isEmpty, 0, []⟩

end Point

/-- Why a place cannot be written to. -/
inductive WriteFault where
  | isDirectory
  | noEntry
  | notDirectory
  | nameTooLong
  /-- A null character, which no name can have. -/
  | nullCharacter
deriving Repr, DecidableEq

/-- The words for a fault at a place. -/
def WriteFault.message (fault : WriteFault) (p : Place) : String :=
  let shown := (Value.str p.text).literal
  match fault with
  | isDirectory => "[Errno 21] Is a directory: " ++ shown
  | noEntry => "[Errno 2] No such file or directory: " ++ shown
  | notDirectory => "[Errno 20] Not a directory: " ++ shown
  | nameTooLong => "[Errno 36] File name too long: " ++ shown
  | nullCharacter => "embedded null byte"

/-- Directories and files. -/
structure Storage where
  directories : List Point
  files : List (Point × String)
deriving Repr

namespace Storage

/-- The most bytes of a name. -/
def maxNameBytes : Nat := 255

/-- The most bytes of a place. -/
def maxPlaceBytes : Nat := 4095

/-- Whether a point is a directory. What is above the working directory always is. -/
def isDirectory (s : Storage) (p : Point) : Bool :=
  p.names.isEmpty || s.directories.contains p

/-- Whether a point is a file. -/
def isFile (s : Storage) (p : Point) : Bool :=
  s.files.any fun f => f.1 == p

/-- Where a name leads from a directory. -/
def step (p : Point) (name : List Char) : Except WriteFault Point :=
  if name == ['.', '.'] then .ok p.parent
  else if maxNameBytes < Text.byteCount name then .error .nameTooLong
  else .ok (p.child name)

/-- Follows names through directories. -/
def follow (s : Storage) (p : Point) : List (List Char) → Except WriteFault Point
  | [] => .ok p
  | name :: names => do
    let next ← step p name
    if s.isDirectory next then s.follow next names
    else if s.isFile next then throw .notDirectory
    else throw .noEntry

/-- The point that a place leads to, as that of a file. -/
def target (s : Storage) (p : Place) : Except WriteFault Point := do
  if p.text.toList.contains '\x00' then throw .nullCharacter
  if maxPlaceBytes < Text.byteCount p.text.toList then throw .nameTooLong
  match p.names.getLast? with
  | none => throw .isDirectory
  | some name =>
    let next ← step (← s.follow (.start p) p.names.dropLast) name
    if s.isDirectory next then throw .isDirectory
    return next

/-- Writes a file, which takes the place of one that is there. -/
def write (s : Storage) (p : Place) (text : String) : Except WriteFault Storage :=
  match s.target p with
  | .error fault => .error fault
  | .ok point => .ok { s with files := (point, text) :: s.files.filter fun f => f.1 != point }

/-- The directories along a place. -/
def along (p : Place) : List Point :=
  (List.range p.names.length).map fun i => { Point.start p with names := p.names.take (i + 1) }

/-- The storage with the directories along some places and without files. -/
def ofDirectories (ps : List Place) : Storage :=
  ⟨ps.flatMap along, []⟩

end Storage

end StubClass.Benchmark
