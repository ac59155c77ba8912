/-!
# Kinds

The kinds of what the names in a template can refer to, beginning with texts: how each is called,
how it is described and how much room it takes. Kinds are of a kind as well.
-/

namespace Criteria.Template

inductive Kind where
  | anything
  | text
  | number
  | truth
  | nothing
  | kind
  /-- A kind that is told what it holds. -/
  | filled
  /-- A list of things. -/
  | list
  /-- A table of things by their names. -/
  | table
  /-- The members of a kind by their names. -/
  | members
  /-- An operation of one thing. -/
  | operation
  /-- An operation of one thing that comes in a wrapper. -/
  | wrapper
  /-- An operation of all things of a kind. -/
  | looseOperation
  | looseWrapper
  /-- An operation of a kind and of the kinds that it takes in. -/
  | looseShared
  /-- An operation that needs neither a thing nor a kind. -/
  | looseFree
  | property
  | field
deriving DecidableEq

/-- The room that things of a kind take. -/
structure Layout where
  size : Nat
  itemSize : Nat
  flags : Nat
  membersOffset : Nat
  referencesOffset : Nat

namespace Kind

def name : Kind → String
  | anything => "object"
  | text => "str"
  | number => "int"
  | truth => "bool"
  | nothing => "NoneType"
  | kind => "type"
  | filled => "GenericAlias"
  | list => "tuple"
  | table => "dict"
  | members => "mappingproxy"
  | operation => "builtin_function_or_method"
  | wrapper => "method-wrapper"
  | looseOperation => "method_descriptor"
  | looseWrapper => "wrapper_descriptor"
  | looseShared => "classmethod_descriptor"
  | looseFree => "staticmethod"
  | property => "getset_descriptor"
  | field => "member_descriptor"

/-- The module in which a kind is named. -/
def moduleName : Kind → String
  | filled => "types"
  | _ => "builtins"

/-- The name by which a kind goes outside its module. -/
def fullName (k : Kind) : String :=
  if k.moduleName = "builtins" then k.name else k.moduleName ++ "." ++ k.name

def toText (k : Kind) : String := "<class '" ++ k.fullName ++ "'>"

/-- The kind that takes in everything of a kind. -/
def base? : Kind → Option Kind
  | anything => none
  | truth => some number
  | _ => some anything

/-- A kind and the kinds that take it in, the nearest first. -/
def lineage : Kind → List Kind
  | anything => [anything]
  | truth => [truth, number, anything]
  | k => [k, anything]

def description? : Kind → Option String
  | anything => some (
    "The base class of the class hierarchy.\n\n" ++
    "When called, it accepts no arguments and returns a new featureless\n" ++
    "instance that has no instance attributes and cannot be given any.\n")
  | text => some (
    "str(object='') -> str\nstr(bytes_or_buffer[, encoding[, errors]]) -> str\n\n" ++
    "Create a new string object from the given object. If encoding or\n" ++
    "errors is specified, then the object must expose a data buffer\n" ++
    "that will be decoded using the given encoding and error handler.\n" ++
    "Otherwise, returns the result of object.__str__() (if defined)\nor repr(object).\n" ++
    "encoding defaults to sys.getdefaultencoding().\nerrors defaults to 'strict'.")
  | number => some (
    "int([x]) -> integer\nint(x, base=10) -> integer\n\n" ++
    "Convert a number or string to an integer, or return 0 if no arguments\n" ++
    "are given.  If x is a number, return x.__int__().  For floating point\n" ++
    "numbers, this truncates towards zero.\n\n" ++
    "If x is not a number or if base is given, then x must be a string,\n" ++
    "bytes, or bytearray instance representing an integer literal in the\n" ++
    "given base.  The literal can be preceded by '+' or '-' and be surrounded\n" ++
    "by whitespace.  The base defaults to 10.  Valid bases are 0 and 2-36.\n" ++
    "Base 0 means to interpret the base from the string as an integer literal.\n" ++
    ">>> int('0b100', base=0)\n4")
  | kind => some (
    "type(object) -> the object's type\ntype(name, bases, dict, **kwds) -> a new type")
  | truth => some (
    "bool(x) -> bool\n\nReturns True when the argument x is true, False otherwise.\n" ++
    "The builtins True and False are the only two instances of the class bool.\n" ++
    "The class bool is a subclass of the class int, and cannot be subclassed.")
  | filled => some (
    "Represent a PEP 585 generic type\n\n" ++
    "E.g. for t = list[int], t.__origin__ is list and t.__args__ is (int,).")
  | table => some (
    "dict() -> new empty dictionary\n" ++
    "dict(mapping) -> new dictionary initialized from a mapping object's\n" ++
    "    (key, value) pairs\ndict(iterable) -> new dictionary initialized as if via:\n" ++
    "    d = \x7b\x7d\n    for k, v in iterable:\n        d[k] = v\n" ++
    "dict(**kwargs) -> new dictionary initialized with the name=value pairs\n" ++
    "    in the keyword argument list.  For example:  dict(one=1, two=2)")
  | looseFree => some (
    "staticmethod(function) -> method\n\nConvert a function to be a static method.\n\n" ++
    "A static method does not receive an implicit first argument.\n" ++
    "To declare a static method, use this idiom:\n\n     class C:\n         @staticmethod\n" ++
    "         def f(arg1, arg2, ...):\n             ...\n\n" ++
    "It can be called either on the class (e.g. C.f()) or on an instance\n" ++
    "(e.g. C().f()). Both the class and the instance are ignored, and\n" ++
    "neither is passed implicitly as the first argument to the method.\n\n" ++
    "Static methods in Python are similar to those found in Java or C++.\n" ++
    "For a more advanced concept, see the classmethod builtin.")
  | list => some (
    "Built-in immutable sequence.\n\n" ++
    "If no argument is given, the constructor returns an empty tuple.\n" ++
    "If iterable is specified the tuple is initialized from iterable's items.\n\n" ++
    "If the argument is a tuple, the return value is the same object.")
  | _ => none

/-- What has to be given to make a thing of a kind. -/
def signature? : Kind → Option String
  | anything => some "()"
  | list => some "(iterable=(), /)"
  | _ => none

def layout : Kind → Layout
  | anything => ⟨16, 0, 529664, 0, 0⟩
  | text => ⟨80, 0, 273159424, 0, 0⟩
  | number => ⟨24, 4, 21501184, 0, 0⟩
  | nothing => ⟨16, 0, 528640, 0, 0⟩
  | kind => ⟨904, 40, 2148031744, 264, 368⟩
  | truth => ⟨32, 4, 21500160, 0, 0⟩
  | filled => ⟨64, 0, 548096, 0, 40⟩
  | list => ⟨24, 8, 71849248, 0, 0⟩
  | table => ⟨48, 0, 541611328, 0, 0⟩
  | looseFree => ⟨32, 0, 546048, 24, 0⟩
  | members => ⟨24, 0, 545088, 0, 0⟩
  | operation => ⟨56, 0, 547200, 0, 40⟩
  | wrapper => ⟨32, 0, 545152, 0, 0⟩
  | looseOperation => ⟨56, 0, 678272, 0, 0⟩
  | looseWrapper => ⟨56, 0, 676224, 0, 0⟩
  | looseShared => ⟨56, 0, 545152, 0, 0⟩
  | property => ⟨48, 0, 545152, 0, 0⟩
  | field => ⟨48, 0, 545152, 0, 0⟩

end Kind
end Criteria.Template
