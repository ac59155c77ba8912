import Criteria.Template.Kind
import Criteria.Template.Member

/-!
# Members of collections

The members of lists and of tables, and those of the members of a kind taken together.
-/

namespace Criteria.Template.Member

/-- What each list has. -/
def ofList : List Member :=
  creation :: wrappers ["__repr__", "__hash__", "__getattribute__", "__lt__", "__le__", "__eq__",
    "__ne__", "__gt__", "__ge__", "__iter__", "__len__", "__getitem__", "__add__", "__mul__",
    "__rmul__", "__contains__"] ++ [
    operation "__getnewargs__" (some "($self, /)") none,
    operation "index" (some "($self, value, start=0, stop=sys.maxsize, /)")
      (some "Return first index of value.\n\nRaises ValueError if the value is not present."),
    operation "count" (some "($self, value, /)") (some "Return number of occurrences of value."),
    shared "__class_getitem__" none (some "See PEP 585"),
    constant "__doc__" Kind.list.description? ]

/-- What each table has. -/
def ofTable : List Member :=
  [creation, wrapper "__repr__", constant "__hash__" none] ++
    wrappers ["__getattribute__", "__lt__", "__le__", "__eq__", "__ne__", "__gt__", "__ge__",
    "__iter__", "__init__", "__or__", "__ror__", "__ior__", "__len__"] ++ [
    operation "__getitem__" none (some "x.__getitem__(y) <==> x[y]"),
    wrapper "__setitem__",
    wrapper "__delitem__",
    operation "__contains__" (some "($self, key, /)")
      (some "True if the dictionary has the specified key, else False."),
    operation "__sizeof__" none (some "D.__sizeof__() -> size of D in memory, in bytes"),
    operation "get" (some "($self, key, default=None, /)")
      (some "Return the value for key if key is in the dictionary, else default."),
    operation "setdefault" (some "($self, key, default=None, /)")
      (some ("Insert key with a value of default if key is not in the dictionary.\n\n" ++
        "Return the value for key if key is in the dictionary, else default.")),
    operation "pop" (some "($self, key, default=<unrepresentable>, /)")
      (some ("D.pop(k[,d]) -> v, remove specified key and return the corresponding value.\n\n" ++
        "If the key is not found, return the default if given; otherwise,\nraise a KeyError.")),
    operation "popitem" (some "($self, /)")
      (some ("Remove and return a (key, value) pair as a 2-tuple.\n\n" ++
        "Pairs are returned in LIFO (last-in, first-out) order.\n" ++
        "Raises KeyError if the dict is empty.")),
    operation "keys" none (some "D.keys() -> a set-like object providing a view on D's keys"),
    operation "items" none (some "D.items() -> a set-like object providing a view on D's items"),
    operation "values" none (some "D.values() -> an object providing a view on D's values"),
    operation "update" none
      (some ("D.update([E, ]**F) -> None.  Update D from dict/iterable E and F.\n" ++
        "If E is present and has a .keys() method, then does:  for k in E: D[k] = E[k]\n" ++
        "If E is present and lacks a .keys() method, then does:  for k, v in E: D[k] = v\n" ++
        "In either case, this is followed by: for k in F:  D[k] = F[k]")),
    shared "fromkeys" (some "($type, iterable, value=None, /)")
      (some "Create a new dictionary with keys from iterable and values set to value."),
    operation "clear" none (some "D.clear() -> None.  Remove all items from D."),
    operation "copy" none (some "D.copy() -> a shallow copy of D"),
    operation "__reversed__" (some "($self, /)")
      (some "Return a reverse iterator over the dict keys."),
    shared "__class_getitem__" none (some "See PEP 585"),
    constant "__doc__" Kind.table.description? ]

/-- What the members of a kind have together. -/
def ofMembers : List Member :=
  creation :: wrappers ["__repr__", "__str__", "__getattribute__", "__lt__", "__le__", "__eq__",
    "__ne__", "__gt__", "__ge__", "__iter__", "__or__", "__ror__", "__ior__", "__len__",
    "__getitem__", "__contains__"] ++ [
    operation "get" none (some "D.get(k[,d]) -> D[k] if k in D, else d.  d defaults to None."),
    operation "keys" none (some "D.keys() -> a set-like object providing a view on D's keys"),
    operation "values" none (some "D.values() -> an object providing a view on D's values"),
    operation "items" none (some "D.items() -> a set-like object providing a view on D's items"),
    operation "copy" none (some "D.copy() -> a shallow copy of D"),
    shared "__class_getitem__" none (some "See PEP 585"),
    operation "__reversed__" none (some "D.__reversed__() -> reverse iterator"),
    constant "__doc__" none,
    constant "__hash__" none ]

end Criteria.Template.Member
