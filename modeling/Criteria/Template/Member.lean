/-!
# Members

The members of kinds: operations, parts, and texts that are the same for all things of a kind.
What a name behind a point leads to is the member of that name.
-/

namespace Criteria.Template

/-- The way in which a kind has a member. -/
inductive Form where
  | operation
  /-- An operation that comes in a wrapper. -/
  | wrapper
  /-- An operation of the kind and not of a single thing. -/
  | shared
  /-- The operation that makes things of the kind. -/
  | creation
  /-- An operation that needs neither a thing nor a kind. -/
  | free
  | field
  /-- A part that is worked out for each thing. -/
  | property
  /-- A description that is the same for all things, or nothing. -/
  | constant
deriving DecidableEq

/-- A member of a kind, with the text on what it is called with and the text on what it does. -/
structure Member where
  name : String
  form : Form
  signature : Option String
  description : Option String
deriving DecidableEq

namespace Member

/-- Whether the member is a part of each thing. -/
def isPart (m : Member) : Bool := m.form == .field || m.form == .property

def operation (name : String) (signature description : Option String) : Member :=
  ⟨name, .operation, signature, description⟩

def shared (name : String) (signature description : Option String) : Member :=
  ⟨name, .shared, signature, description⟩

def free (name : String) (signature description : Option String) : Member :=
  ⟨name, .free, signature, description⟩

def field (name : String) : Member := ⟨name, .field, none, none⟩

def property (name : String) (description : Option String) : Member :=
  ⟨name, .property, none, description⟩

def constant (name : String) (description : Option String) : Member :=
  ⟨name, .constant, none, description⟩

def creation : Member where
  name := "__new__"
  form := .creation
  signature := some "($type, *args, **kwargs)"
  description := some "Create and return a new object.  See help(type) for accurate signature."

/-- The wrapped operations. They are told of in the same words for every kind. -/
def wrapperTexts : List (String × String × String) :=
  [("__repr__", "($self, /)", "Return repr(self)."),
   ("__hash__", "($self, /)", "Return hash(self)."),
   ("__str__", "($self, /)", "Return str(self)."),
   ("__getattribute__", "($self, name, /)", "Return getattr(self, name)."),
   ("__setattr__", "($self, name, value, /)", "Implement setattr(self, name, value)."),
   ("__delattr__", "($self, name, /)", "Implement delattr(self, name)."),
   ("__lt__", "($self, value, /)", "Return self<value."),
   ("__le__", "($self, value, /)", "Return self<=value."),
   ("__eq__", "($self, value, /)", "Return self==value."),
   ("__ne__", "($self, value, /)", "Return self!=value."),
   ("__gt__", "($self, value, /)", "Return self>value."),
   ("__ge__", "($self, value, /)", "Return self>=value."),
   ("__init__", "($self, /, *args, **kwargs)",
    "Initialize self.  See help(type(self)) for accurate signature."),
   ("__iter__", "($self, /)", "Implement iter(self)."),
   ("__mod__", "($self, value, /)", "Return self%value."),
   ("__rmod__", "($self, value, /)", "Return value%self."),
   ("__len__", "($self, /)", "Return len(self)."),
   ("__getitem__", "($self, key, /)", "Return self[key]."),
   ("__add__", "($self, value, /)", "Return self+value."),
   ("__mul__", "($self, value, /)", "Return self*value."),
   ("__rmul__", "($self, value, /)", "Return value*self."),
   ("__contains__", "($self, key, /)", "Return key in self."),
   ("__call__", "($self, /, *args, **kwargs)", "Call self as a function."),
   ("__or__", "($self, value, /)", "Return self|value."),
   ("__ror__", "($self, value, /)", "Return value|self."),
   ("__radd__", "($self, value, /)", "Return value+self."),
   ("__sub__", "($self, value, /)", "Return self-value."),
   ("__rsub__", "($self, value, /)", "Return value-self."),
   ("__divmod__", "($self, value, /)", "Return divmod(self, value)."),
   ("__rdivmod__", "($self, value, /)", "Return divmod(value, self)."),
   ("__pow__", "($self, value, mod=None, /)", "Return pow(self, value, mod)."),
   ("__rpow__", "($self, value, mod=None, /)", "Return pow(value, self, mod)."),
   ("__neg__", "($self, /)", "-self"),
   ("__pos__", "($self, /)", "+self"),
   ("__abs__", "($self, /)", "abs(self)"),
   ("__bool__", "($self, /)", "True if self else False"),
   ("__invert__", "($self, /)", "~self"),
   ("__lshift__", "($self, value, /)", "Return self<<value."),
   ("__rlshift__", "($self, value, /)", "Return value<<self."),
   ("__rshift__", "($self, value, /)", "Return self>>value."),
   ("__rrshift__", "($self, value, /)", "Return value>>self."),
   ("__and__", "($self, value, /)", "Return self&value."),
   ("__rand__", "($self, value, /)", "Return value&self."),
   ("__xor__", "($self, value, /)", "Return self^value."),
   ("__rxor__", "($self, value, /)", "Return value^self."),
   ("__int__", "($self, /)", "int(self)"),
   ("__float__", "($self, /)", "float(self)"),
   ("__floordiv__", "($self, value, /)", "Return self//value."),
   ("__rfloordiv__", "($self, value, /)", "Return value//self."),
   ("__truediv__", "($self, value, /)", "Return self/value."),
   ("__rtruediv__", "($self, value, /)", "Return value/self."),
   ("__index__", "($self, /)",
    "Return self converted to an integer, if self is suitable for use as an index into a list."),
   ("__get__", "($self, instance, owner=None, /)",
    "Return an attribute of instance, which is of type owner."),
   ("__set__", "($self, instance, value, /)", "Set an attribute of instance to value."),
   ("__delete__", "($self, instance, /)", "Delete an attribute of instance."),
   ("__ior__", "($self, value, /)", "Return self|=value."),
   ("__setitem__", "($self, key, value, /)", "Set self[key] to value."),
   ("__delitem__", "($self, key, /)", "Delete self[key].")]

def wrapper (name : String) : Member :=
  let texts := wrapperTexts.lookup name
  ⟨name, .wrapper, texts.map (·.1), texts.map (·.2)⟩

def wrappers (names : List String) : List Member := names.map wrapper

example : (wrapper "__len__").description = some "Return len(self)." := by decide +kernel

end Member
end Criteria.Template
