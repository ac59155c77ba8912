import Criteria.Template.Kind
import Criteria.Template.Member

/-!
# Members of operations

The members of operations, and those of the members of a kind one by one.
-/

namespace Criteria.Template.Member

/-- What an operation of one thing has. -/
def ofOperation : List Member :=
  wrappers ["__repr__", "__hash__", "__call__", "__getattribute__", "__lt__", "__le__", "__eq__",
    "__ne__", "__gt__", "__ge__"] ++ [
    operation "__reduce__" none none,
    field "__module__",
    property "__doc__" none,
    property "__name__" none,
    property "__qualname__" none,
    property "__self__" none,
    property "__text_signature__" none ]

/-- What a wrapped operation of one thing has. -/
def ofWrapper : List Member :=
  wrappers ["__repr__", "__hash__", "__call__", "__getattribute__", "__lt__", "__le__", "__eq__",
    "__ne__", "__gt__", "__ge__"] ++ [
    operation "__reduce__" none none,
    field "__self__",
    property "__objclass__" none,
    property "__name__" none,
    property "__qualname__" none,
    property "__doc__" none,
    property "__text_signature__" none ]

/-- What an operation of a kind has, wrapped or not. -/
def ofLooseOperation : List Member :=
  wrappers ["__repr__", "__call__", "__getattribute__", "__get__"] ++ [
    operation "__reduce__" none none,
    field "__objclass__",
    field "__name__",
    property "__doc__" none,
    property "__qualname__" none,
    property "__text_signature__" none ]

/-- What a shared operation of a kind has. -/
def ofLooseShared : List Member :=
  wrappers ["__repr__", "__call__", "__getattribute__", "__get__"] ++ [
    field "__objclass__",
    field "__name__",
    property "__doc__" none,
    property "__qualname__" none,
    property "__text_signature__" none ]

/-- What a free operation of a kind has. It leads to the operation that it stands for. -/
def ofLooseFree : List Member :=
  creation :: wrappers ["__repr__", "__call__", "__get__", "__init__"] ++ [
    field "__func__",
    field "__wrapped__",
    property "__isabstractmethod__" none,
    property "__dict__" none,
    constant "__doc__" Kind.looseFree.description? ]

/-- What a field of a kind has. -/
def ofField : List Member :=
  wrappers ["__repr__", "__getattribute__", "__get__", "__set__", "__delete__"] ++ [
    operation "__reduce__" none none,
    field "__objclass__",
    field "__name__",
    property "__doc__" none,
    property "__qualname__" none ]

/-- What a property of a kind has. -/
def ofProperty : List Member :=
  wrappers ["__repr__", "__getattribute__", "__get__", "__set__", "__delete__"] ++ [
    field "__objclass__",
    field "__name__",
    property "__doc__" none,
    property "__qualname__" none ]

end Criteria.Template.Member
