import StubClass.Manual.Note

set_option autoImplicit false

/-! # Notes on attributes: containers -/

namespace StubClass.Manual

/-- What the attributes of lists say of themselves. -/
def listNotes : List Note :=
  [
    ⟨"__class_getitem__", none, "See PEP 585"⟩,
    ⟨"__getitem__", none, "x.__getitem__(y) <==> x[y]"⟩,
    ⟨"__reversed__", "($self, /)", "Return a reverse iterator over the list."⟩,
    ⟨"__sizeof__", "($self, /)", "Return the size of the list in memory, in bytes."⟩,
    ⟨"append", "($self, object, /)", "Append object to the end of the list."⟩,
    ⟨"clear", "($self, /)", "Remove all items from list."⟩,
    ⟨"copy", "($self, /)", "Return a shallow copy of the list."⟩,
    ⟨"count", "($self, value, /)", "Return number of occurrences of value."⟩,
    ⟨"extend", "($self, iterable, /)", "Extend list by appending elements from the iterable."⟩,
    ⟨"index", "($self, value, start=0, stop=sys.maxsize, /)",
     "Return first index of value.\n\nRaises ValueError if the value is not present."⟩,
    ⟨"insert", "($self, index, object, /)", "Insert object before index."⟩,
    ⟨"pop", "($self, index=-1, /)",
     ("Remove and return item at index (default last).\n\nRaises IndexError if list is "
      ++ "empty or index is out of range.")⟩,
    ⟨"remove", "($self, value, /)",
     "Remove first occurrence of value.\n\nRaises ValueError if the value is not present."⟩,
    ⟨"reverse", "($self, /)", "Reverse *IN PLACE*."⟩,
    ⟨"sort", "($self, /, *, key=None, reverse=False)",
     ("Sort the list in ascending order and return None.\n\nThe sort is in-place (i.e. the "
      ++ "list itself is modified) and stable (i.e. the\norder of two equal elements is "
      ++ "maintained).\n\nIf a key function is given, apply it once to each list item and "
      ++ "sort them,\nascending or descending, according to their function values.\n\nThe "
      ++ "reverse flag can be set to sort in descending order.")⟩]

/-- What the attributes of tuples say of themselves. -/
def tupleNotes : List Note :=
  [
    ⟨"__class_getitem__", none, "See PEP 585"⟩,
    ⟨"__getnewargs__", "($self, /)", none⟩,
    ⟨"count", "($self, value, /)", "Return number of occurrences of value."⟩,
    ⟨"index", "($self, value, start=0, stop=sys.maxsize, /)",
     "Return first index of value.\n\nRaises ValueError if the value is not present."⟩]

/-- What the attributes of dictionaries say of themselves. -/
def dictNotes : List Note :=
  [
    ⟨"__class_getitem__", none, "See PEP 585"⟩,
    ⟨"__contains__", "($self, key, /)",
     "True if the dictionary has the specified key, else False."⟩,
    ⟨"__getitem__", none, "x.__getitem__(y) <==> x[y]"⟩,
    ⟨"__reversed__", "($self, /)", "Return a reverse iterator over the dict keys."⟩,
    ⟨"__sizeof__", none, "D.__sizeof__() -> size of D in memory, in bytes"⟩,
    ⟨"clear", none, "D.clear() -> None.  Remove all items from D."⟩,
    ⟨"copy", none, "D.copy() -> a shallow copy of D"⟩,
    ⟨"fromkeys", "($type, iterable, value=None, /)",
     "Create a new dictionary with keys from iterable and values set to value."⟩,
    ⟨"get", "($self, key, default=None, /)",
     "Return the value for key if key is in the dictionary, else default."⟩,
    ⟨"items", none, "D.items() -> a set-like object providing a view on D's items"⟩,
    ⟨"keys", none, "D.keys() -> a set-like object providing a view on D's keys"⟩,
    ⟨"pop", "($self, key, default=<unrepresentable>, /)",
     ("D.pop(k[,d]) -> v, remove specified key and return the corresponding value.\n\nIf "
      ++ "the key is not found, return the default if given; otherwise,\nraise a KeyError.")⟩,
    ⟨"popitem", "($self, /)",
     ("Remove and return a (key, value) pair as a 2-tuple.\n\nPairs are returned in LIFO "
      ++ "(last-in, first-out) order.\nRaises KeyError if the dict is empty.")⟩,
    ⟨"setdefault", "($self, key, default=None, /)",
     ("Insert key with a value of default if key is not in the dictionary.\n\nReturn the "
      ++ "value for key if key is in the dictionary, else default.")⟩,
    ⟨"update", none,
     ("D.update([E, ]**F) -> None.  Update D from dict/iterable E and F.\nIf E is present "
      ++ "and has a .keys() method, then does:  for k in E: D[k] = E[k]\nIf E is present "
      ++ "and lacks a .keys() method, then does:  for k, v in E: D[k] = v\nIn either case, "
      ++ "this is followed by: for k in F:  D[k] = F[k]")⟩,
    ⟨"values", none, "D.values() -> an object providing a view on D's values"⟩]

/-- What the attributes of ordered dictionaries say of themselves. -/
def orderedDictNotes : List Note :=
  [
    ⟨"__reduce__", none, "Return state information for pickling"⟩,
    ⟨"__reversed__", none, "od.__reversed__() <==> reversed(od)"⟩,
    ⟨"clear", none, "od.clear() -> None.  Remove all items from od."⟩,
    ⟨"copy", none, "od.copy() -> a shallow copy of od"⟩,
    ⟨"fromkeys", "($type, /, iterable, value=None)",
     "Create a new ordered dictionary with keys from iterable and values set to value."⟩,
    ⟨"move_to_end", "($self, /, key, last=True)",
     ("Move an existing element to the end (or beginning if last is false).\n\nRaise "
      ++ "KeyError if the element does not exist.")⟩,
    ⟨"pop", "($self, /, key, default=<unrepresentable>)",
     ("od.pop(key[,default]) -> v, remove specified key and return the corresponding value."
      ++ "\n\nIf the key is not found, return the default if given; otherwise,\nraise a "
      ++ "KeyError.")⟩,
    ⟨"popitem", "($self, /, last=True)",
     ("Remove and return a (key, value) pair from the dictionary.\n\nPairs are returned in "
      ++ "LIFO order if last is true or FIFO order if false.")⟩,
    ⟨"setdefault", "($self, /, key, default=None)",
     ("Insert key with a value of default if key is not in the dictionary.\n\nReturn the "
      ++ "value for key if key is in the dictionary, else default.")⟩]

/-- What the attributes of sets say of themselves. -/
def setNotes : List Note :=
  [
    ⟨"__class_getitem__", none, "See PEP 585"⟩,
    ⟨"__contains__", none, "x.__contains__(y) <==> y in x."⟩,
    ⟨"__reduce__", none, "Return state information for pickling."⟩,
    ⟨"__sizeof__", none, "S.__sizeof__() -> size of S in memory, in bytes"⟩,
    ⟨"add", none,
     "Add an element to a set.\n\nThis has no effect if the element is already present."⟩,
    ⟨"clear", none, "Remove all elements from this set."⟩,
    ⟨"copy", none, "Return a shallow copy of a set."⟩,
    ⟨"difference", none,
     ("Return the difference of two or more sets as a new set.\n\n(i.e. all elements that "
      ++ "are in this set but not the others.)")⟩,
    ⟨"difference_update", none, "Remove all elements of another set from this set."⟩,
    ⟨"discard", none,
     ("Remove an element from a set if it is a member.\n\nUnlike set.remove(), the "
      ++ "discard() method does not raise\nan exception when an element is missing from the "
      ++ "set.")⟩,
    ⟨"intersection", none,
     ("Return the intersection of two sets as a new set.\n\n(i.e. all elements that are in "
      ++ "both sets.)")⟩,
    ⟨"intersection_update", none, "Update a set with the intersection of itself and another."⟩,
    ⟨"isdisjoint", none, "Return True if two sets have a null intersection."⟩,
    ⟨"issubset", "($self, other, /)", "Test whether every element in the set is in other."⟩,
    ⟨"issuperset", "($self, other, /)", "Test whether every element in other is in the set."⟩,
    ⟨"pop", none,
     "Remove and return an arbitrary set element.\nRaises KeyError if the set is empty."⟩,
    ⟨"remove", none,
     ("Remove an element from a set; it must be a member.\n\nIf the element is not a "
      ++ "member, raise a KeyError.")⟩,
    ⟨"symmetric_difference", none,
     ("Return the symmetric difference of two sets as a new set.\n\n(i.e. all elements that "
      ++ "are in exactly one of the sets.)")⟩,
    ⟨"symmetric_difference_update", none,
     "Update a set with the symmetric difference of itself and another."⟩,
    ⟨"union", none,
     "Return the union of sets as a new set.\n\n(i.e. all elements that are in either set.)"⟩,
    ⟨"update", none, "Update a set with the union of itself and others."⟩]

/-- What the attributes of dictionaries that are only read say of themselves. -/
def readOnlyDictNotes : List Note :=
  [
    ⟨"__class_getitem__", none, "See PEP 585"⟩,
    ⟨"__reversed__", none, "D.__reversed__() -> reverse iterator"⟩,
    ⟨"copy", none, "D.copy() -> a shallow copy of D"⟩,
    ⟨"get", none, "D.get(k[,d]) -> D[k] if k in D, else d.  d defaults to None."⟩,
    ⟨"items", none, "D.items() -> a set-like object providing a view on D's items"⟩,
    ⟨"keys", none, "D.keys() -> a set-like object providing a view on D's keys"⟩,
    ⟨"values", none, "D.values() -> an object providing a view on D's values"⟩]

/-- What the attributes of views of keys say of themselves. -/
def keysViewNotes : List Note :=
  [
    ⟨"__reversed__", none, "Return a reverse iterator over the dict keys."⟩,
    ⟨"isdisjoint", none,
     "Return True if the view and the given iterable have a null intersection."⟩,
    ⟨"mapping", none, "dictionary that this view refers to"⟩]

/-- What the attributes of views of values say of themselves. -/
def valuesViewNotes : List Note :=
  [
    ⟨"__reversed__", none, "Return a reverse iterator over the dict values."⟩,
    ⟨"mapping", none, "dictionary that this view refers to"⟩]

/-- What the attributes of views of entries say of themselves. -/
def entriesViewNotes : List Note :=
  [
    ⟨"__reversed__", none, "Return a reverse iterator over the dict items."⟩,
    ⟨"isdisjoint", none,
     "Return True if the view and the given iterable have a null intersection."⟩,
    ⟨"mapping", none, "dictionary that this view refers to"⟩]

end StubClass.Manual
