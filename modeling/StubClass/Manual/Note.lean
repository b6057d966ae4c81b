set_option autoImplicit false

/-! # Notes on attributes

What the attributes of built-in types say of themselves: how they are called, and what they do. -/

namespace StubClass

/-- What an attribute says of itself. -/
structure Note where
  name : String
  /-- How it is called, if that is known. -/
  signature : Option String
  /-- What it does. -/
  words : Option String

end StubClass
