import StubClass.Ordinary.Collection

set_option autoImplicit false

/-! # Literal forms

How the objects of built-in types are written out by their types. What contains itself is written
with a mark in the place where it would start over. -/

namespace StubClass

/-- A text with a mark in the place of an object that is written out already. -/
def unlessAgain (x : Obj) (mark : String) (r : Run String) : Run String := do
  if (← read).place.depicting.contains x then return mark else depicting x r

/-- The literal forms of several objects. -/
def literalsOf : List Obj → Run (List String)
  | [] => return []
  | x :: xs => do
    let text ← literalOf x
    return text :: (← literalsOf xs)

/-- Texts with commas between them. -/
def commaJoined (texts : List String) : String :=
  String.intercalate ", " texts

/-- The literal forms of entries. -/
def entryLiterals : Table → Run (List String)
  | [] => return []
  | e :: es => do
    let key ← literalOf e.key
    let text ← literalOf e.value
    return (key ++ ": " ++ text) :: (← entryLiterals es)

/-- The literal form of a table. -/
def tableLiteral (t : Table) : Run String := do
  return "\x7b" ++ commaJoined (← entryLiterals t) ++ "\x7d"

/-- The literal form of what stands under a name of a type. -/
def heldLiteral (kind name typeName : String) : String :=
  "<" ++ kind ++ " '" ++ name ++ "' of '" ++ typeName ++ "' objects>"

/-- The literal form of what stands under a name of a built-in type. -/
def attributeLiteral (t : BuiltinType) (name : String) : String :=
  match t.attributeKind? name with
  | some .method | some .classMethod => heldLiteral "method" name t.title
  | some .slot => heldLiteral "slot wrapper" name t.title
  | some .computed => heldLiteral "attribute" name t.title
  | some .field => heldLiteral "member" name t.title
  | some .free =>
    if t == .module then "<built-in function " ++ name ++ ">"
    else "<built-in method " ++ name ++ " of type object at 0x?>"
  | _ => "<object object at 0x?>"

/-- The name of a callable in the literal form of its methods. -/
def calleeName (f : Obj) : Run String := do
  let name ← match ← take? f "__qualname__" with
    | some y => pure (some y)
    | none => take? f "__name__"
  return (name.bind (← get).text?).getD "?"

/-- The arguments of a prepared call as they are written behind its function. -/
def preparedLiterals (positional : List Obj) (keywords : Table) : Run String := do
  let given ← literalsOf positional
  let named ← keywords.mapM fun e => do
    let key ← plainText e.key
    return key ++ "=" ++ (← literalOf e.value)
  return String.join ((given ++ named).map fun text => ", " ++ text)

/-- The literal form of a method of a built-in type with its receiver. -/
def builtinMethodLiteral (w : World) (x : Obj) (name : String) (receiver : Obj) : String :=
  if w.isExactly x .slotMethod then
    "<method-wrapper '" ++ name ++ "' of " ++ w.typeTitle receiver ++ " object at 0x?>"
  else "<built-in method " ++ name ++ " of " ++ w.typeTitle receiver ++ " object at 0x?>"

/-- The literal form of an object by the make of its body. -/
def bodyLiteral (x : Obj) : Run String := do
  let w ← get
  match w.body x with
  | .int n => wholeText n
  | .float y => return Number.floatText y
  | .complex re im => return (Number.Complex.mk re im).text
  | .str text => return (Value.str text).literal
  | .bytes bs => return (Value.bytes bs).literal
  | .list xs =>
    if xs.isEmpty then return "[]"
    else
      unlessAgain x "[...]" do
        return "[" ++ commaJoined (← literalsOf xs) ++ "]"
  | .tuple xs =>
    if xs.isEmpty then return "()"
    else
      unlessAgain x "(...)" do
        let texts ← literalsOf xs
        return "(" ++ commaJoined texts ++ (if texts.length == 1 then ",)" else ")")
  | .dict t =>
    if t.isEmpty then return "\x7b\x7d" else unlessAgain x "\x7b...\x7d" (tableLiteral t)
  | .set s => do
    let title := w.typeTitle x
    unlessAgain x (title ++ "(...)") do
      let texts ← literalsOf s.entries.keys
      let inner := "\x7b" ++ commaJoined texts ++ "\x7d"
      return if texts.isEmpty then title ++ "()"
        else if w.isExactly x .set then inner else title ++ "(" ++ inner ++ ")"
  | .view _ =>
    if w.isExactly x .readOnlyDict then do
      return "mappingproxy(" ++ (← tableLiteral (w.tableOf x)) ++ ")"
    else
      unlessAgain x "..." do
        return w.typeName x ++ "([" ++ commaJoined (← literalsOf (← elementsOf x)) ++ "])"
  | .readOnly y => return "mappingproxy(" ++ (← literalOf y) ++ ")"
  | .function f => return "<function " ++ (w.text? f.qualifiedName).getD "" ++ " at 0x?>"
  | .code c => return "<code object " ++ c.name ++ " at 0x?, file \"\", line 0>"
  | .method f r => do
    let name ← calleeName f
    return "<bound method " ++ name ++ " of " ++ (← literalOf r) ++ ">"
  | .builtinMethod _ name r _ => return builtinMethodLiteral w x name r
  | .binder inner => do
    let kind := if w.isOf x .staticMethod then "staticmethod" else "classmethod"
    return "<" ++ kind ++ "(" ++ (← literalOf inner) ++ ")>"
  | .partialCall f positional keywords =>
    unlessAgain x "..." do
      let rest ← preparedLiterals positional ((← get).tableOf keywords)
      return w.typeTitle x ++ "(" ++ (← literalOf f) ++ rest ++ ")"
  | .producer p => return "<generator object " ++ (← plainText p.qualifiedName) ++ " at 0x?>"
  | .cell content =>
    return "<cell at 0x?: " ++ (match content with
      | some y => Text.clip 80 (w.typeTitle y) ++ " object at 0x?"
      | none => "empty") ++ ">"
  | .slot owner name => return heldLiteral "member" name (w.titleOf owner)
  | .dictAccess owner name => return heldLiteral "attribute" name (w.titleOf owner)
  | _ => return w.plainLiteral x

/-- The literal form of an object in the way of a built-in type. -/
def literalIn (t : BuiltinType) (x : Obj) : Run String := do
  let w ← get
  match t, x with
  | .object, _ => return w.plainLiteral x
  | .type, c => return w.classLiteral c
  | .bool, x => return if (w.whole? x).getD 0 == 0 then "False" else "True"
  | _, .none => return "None"
  | _, .unknownOperand => return "NotImplemented"
  | _, .ellipsis => return "Ellipsis"
  | _, .held owner name => return attributeLiteral owner name
  | _, x => bodyLiteral x

end StubClass
