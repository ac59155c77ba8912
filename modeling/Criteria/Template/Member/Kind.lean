import Criteria.Template.Kind
import Criteria.Template.Member

/-!
# Members of kinds

The members that each thing has, and those that kinds have beyond them.
-/

namespace Criteria.Template.Member

/-- What each thing has. -/
def ofAnything : List Member :=
  creation :: wrappers ["__repr__", "__hash__", "__str__", "__getattribute__", "__setattr__",
    "__delattr__", "__lt__", "__le__", "__eq__", "__ne__", "__gt__", "__ge__", "__init__"] ++ [
    operation "__reduce_ex__" (some "($self, protocol, /)") (some "Helper for pickle."),
    operation "__reduce__" (some "($self, /)") (some "Helper for pickle."),
    operation "__getstate__" (some "($self, /)") (some "Helper for pickle."),
    shared "__subclasshook__" none
      (some ("Abstract classes can override this to customize issubclass().\n\n" ++
        "This is invoked early on by abc.ABCMeta.__subclasscheck__().\n" ++
        "It should return True, False or NotImplemented.  If it returns\n" ++
        "NotImplemented, the normal algorithm is used.  Otherwise, it\n" ++
        "overrides the normal algorithm (and the outcome is cached).\n")),
    shared "__init_subclass__" none
      (some ("This method is called when a class is subclassed.\n\n" ++
        "The default implementation does nothing. It may be\n" ++
        "overridden to extend subclasses.\n")),
    operation "__format__" (some "($self, format_spec, /)") (some "Default object formatter."),
    operation "__sizeof__" (some "($self, /)") (some "Size of object in memory, in bytes."),
    operation "__dir__" (some "($self, /)") (some "Default dir() implementation."),
    property "__class__" (some "the object's class"),
    constant "__doc__" Kind.anything.description? ]

/-- What each kind has. -/
def ofKind : List Member :=
  creation :: wrappers ["__repr__", "__call__", "__getattribute__", "__setattr__", "__delattr__",
    "__init__", "__or__", "__ror__"] ++ [
    operation "mro" (some "($self, /)") (some "Return a type's method resolution order."),
    operation "__subclasses__" (some "($self, /)")
      (some "Return a list of immediate subclasses."),
    shared "__prepare__" none
      (some "__prepare__() -> dict\nused to create the namespace for the class statement"),
    operation "__instancecheck__" (some "($self, instance, /)")
      (some "Check if an object is an instance."),
    operation "__subclasscheck__" (some "($self, subclass, /)")
      (some "Check if a class is a subclass."),
    operation "__dir__" (some "($self, /)")
      (some "Specialized __dir__ implementation for types."),
    operation "__sizeof__" (some "($self, /)")
      (some "Return memory consumption of the type object."),
    field "__basicsize__",
    field "__itemsize__",
    field "__flags__",
    field "__weakrefoffset__",
    field "__base__",
    field "__dictoffset__",
    field "__mro__",
    property "__name__" none,
    property "__qualname__" none,
    property "__bases__" none,
    property "__module__" none,
    property "__abstractmethods__" none,
    property "__dict__" none,
    property "__doc__" none,
    property "__text_signature__" none,
    property "__annotations__" none ]

/-- What a kind has that is told what it holds. -/
def ofFilled : List Member :=
  creation :: wrappers ["__repr__", "__hash__", "__call__", "__getattribute__", "__lt__",
    "__le__", "__eq__", "__ne__", "__gt__", "__ge__", "__iter__", "__or__", "__ror__",
    "__getitem__"] ++ [
    operation "__mro_entries__" none none,
    operation "__instancecheck__" none none,
    operation "__subclasscheck__" none none,
    operation "__reduce__" none none,
    operation "__dir__" none none,
    field "__origin__",
    field "__args__",
    field "__unpacked__",
    property "__parameters__" (some "Type variables in the GenericAlias."),
    property "__typing_unpacked_tuple_args__" none,
    constant "__doc__" Kind.filled.description? ]

end Criteria.Template.Member
