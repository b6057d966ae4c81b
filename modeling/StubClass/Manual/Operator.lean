import StubClass.Manual.Note

set_option autoImplicit false

/-! # Notes on operators

What an operator says of itself is the same in all types. -/

namespace StubClass.Manual

/-- What operators say of themselves. -/
def operators : List Note :=
  [
    ⟨"__abs__", "($self, /)", "abs(self)"⟩,
    ⟨"__add__", "($self, value, /)", "Return self+value."⟩,
    ⟨"__and__", "($self, value, /)", "Return self&value."⟩,
    ⟨"__bool__", "($self, /)", "True if self else False"⟩,
    ⟨"__call__", "($self, /, *args, **kwargs)", "Call self as a function."⟩,
    ⟨"__contains__", "($self, key, /)", "Return key in self."⟩,
    ⟨"__del__", none, none⟩,
    ⟨"__delattr__", "($self, name, /)", "Implement delattr(self, name)."⟩,
    ⟨"__delete__", "($self, instance, /)", "Delete an attribute of instance."⟩,
    ⟨"__delitem__", "($self, key, /)", "Delete self[key]."⟩,
    ⟨"__divmod__", "($self, value, /)", "Return divmod(self, value)."⟩,
    ⟨"__eq__", "($self, value, /)", "Return self==value."⟩,
    ⟨"__float__", "($self, /)", "float(self)"⟩,
    ⟨"__floordiv__", "($self, value, /)", "Return self//value."⟩,
    ⟨"__ge__", "($self, value, /)", "Return self>=value."⟩,
    ⟨"__get__", "($self, instance, owner=None, /)",
     "Return an attribute of instance, which is of type owner."⟩,
    ⟨"__getattribute__", "($self, name, /)", "Return getattr(self, name)."⟩,
    ⟨"__getitem__", "($self, key, /)", "Return self[key]."⟩,
    ⟨"__gt__", "($self, value, /)", "Return self>value."⟩,
    ⟨"__hash__", "($self, /)", "Return hash(self)."⟩,
    ⟨"__iadd__", "($self, value, /)", "Implement self+=value."⟩,
    ⟨"__iand__", "($self, value, /)", "Return self&=value."⟩,
    ⟨"__imul__", "($self, value, /)", "Implement self*=value."⟩,
    ⟨"__index__", "($self, /)",
     ("Return self converted to an integer, if self is suitable for use as an index into a "
      ++ "list.")⟩,
    ⟨"__init__", "($self, /, *args, **kwargs)",
     "Initialize self.  See help(type(self)) for accurate signature."⟩,
    ⟨"__int__", "($self, /)", "int(self)"⟩,
    ⟨"__invert__", "($self, /)", "~self"⟩,
    ⟨"__ior__", "($self, value, /)", "Return self|=value."⟩,
    ⟨"__isub__", "($self, value, /)", "Return self-=value."⟩,
    ⟨"__iter__", "($self, /)", "Implement iter(self)."⟩,
    ⟨"__ixor__", "($self, value, /)", "Return self^=value."⟩,
    ⟨"__le__", "($self, value, /)", "Return self<=value."⟩,
    ⟨"__len__", "($self, /)", "Return len(self)."⟩,
    ⟨"__lshift__", "($self, value, /)", "Return self<<value."⟩,
    ⟨"__lt__", "($self, value, /)", "Return self<value."⟩,
    ⟨"__mod__", "($self, value, /)", "Return self%value."⟩,
    ⟨"__mul__", "($self, value, /)", "Return self*value."⟩,
    ⟨"__ne__", "($self, value, /)", "Return self!=value."⟩,
    ⟨"__neg__", "($self, /)", "-self"⟩,
    ⟨"__next__", "($self, /)", "Implement next(self)."⟩,
    ⟨"__or__", "($self, value, /)", "Return self|value."⟩,
    ⟨"__pos__", "($self, /)", "+self"⟩,
    ⟨"__pow__", "($self, value, mod=None, /)", "Return pow(self, value, mod)."⟩,
    ⟨"__radd__", "($self, value, /)", "Return value+self."⟩,
    ⟨"__rand__", "($self, value, /)", "Return value&self."⟩,
    ⟨"__rdivmod__", "($self, value, /)", "Return divmod(value, self)."⟩,
    ⟨"__repr__", "($self, /)", "Return repr(self)."⟩,
    ⟨"__rfloordiv__", "($self, value, /)", "Return value//self."⟩,
    ⟨"__rlshift__", "($self, value, /)", "Return value<<self."⟩,
    ⟨"__rmod__", "($self, value, /)", "Return value%self."⟩,
    ⟨"__rmul__", "($self, value, /)", "Return value*self."⟩,
    ⟨"__ror__", "($self, value, /)", "Return value|self."⟩,
    ⟨"__rpow__", "($self, value, mod=None, /)", "Return pow(value, self, mod)."⟩,
    ⟨"__rrshift__", "($self, value, /)", "Return value>>self."⟩,
    ⟨"__rshift__", "($self, value, /)", "Return self>>value."⟩,
    ⟨"__rsub__", "($self, value, /)", "Return value-self."⟩,
    ⟨"__rtruediv__", "($self, value, /)", "Return value/self."⟩,
    ⟨"__rxor__", "($self, value, /)", "Return value^self."⟩,
    ⟨"__set__", "($self, instance, value, /)", "Set an attribute of instance to value."⟩,
    ⟨"__setattr__", "($self, name, value, /)", "Implement setattr(self, name, value)."⟩,
    ⟨"__setitem__", "($self, key, value, /)", "Set self[key] to value."⟩,
    ⟨"__str__", "($self, /)", "Return str(self)."⟩,
    ⟨"__sub__", "($self, value, /)", "Return self-value."⟩,
    ⟨"__truediv__", "($self, value, /)", "Return self/value."⟩,
    ⟨"__xor__", "($self, value, /)", "Return self^value."⟩]

end StubClass.Manual
