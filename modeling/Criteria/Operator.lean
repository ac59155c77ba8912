import Criteria.Error
import Criteria.NameMap
import Criteria.Template.Filling
import Criteria.Text.Order

/-!
# Comparison operators

Comparison operators. An operator has a template, in which the field 0 stands for the column and
the fields from 1 on for the values, and an arity, the number of values.
-/

namespace Criteria

structure Operator where
  name : String
  template : String
  arity : Int
deriving DecidableEq

namespace Operator

/-- Whether the names are those of the numbers from 1 to `count`, in any order. The names are
distinct, so that counting them is enough to exclude others. -/
def areNumbersTo (count : Nat) (names : List String) : Bool :=
  names.length == count && (List.range count).all fun i => names.contains (i + 1).repr

/-- Makes an operator, if the fields of its template are those that the arity asks for. -/
def define (name template : String) (arity : Int) : Except Error Operator := do
  match Template.slots template with
  | .error fault => throw (.template fault)
  | .ok slots =>
    if "0" ∉ slots then throw (.noColumnSlot name template)
    let values := slots.filter (· ≠ "0")
    if areNumbersTo arity.toNat values then return ⟨name, template, arity⟩
    else throw (.showing arity (.wrongSlots name template arity (Text.sorted values)))

/-- The comparison of a column with values, all given as texts. Surplus values are ignored. -/
def render (op : Operator) (column : String) (values : List String) : Except Error String :=
  match Template.fill op.template (column :: values) with
  | .ok s => .ok s
  | .error fault => .error (.template fault)

end Operator

/-- The operators that can be used, by name. -/
abbrev OperatorTable := NameMap Operator

namespace OperatorTable

def builtIn : OperatorTable :=
  .ofList ([
    ("IS_NULL", "\x7b0\x7d IS NULL", 0),
    ("IS_NOT_NULL", "\x7b0\x7d IS NOT NULL", 0),
    ("EQUAL", "\x7b0\x7d = \x7b1\x7d", 1),
    ("NOT_EQUAL", "\x7b0\x7d <> \x7b1\x7d", 1),
    ("GREATER_THAN", "\x7b0\x7d > \x7b1\x7d", 1),
    ("GREATER_THAN_OR_EQUAL", "\x7b0\x7d >= \x7b1\x7d", 1),
    ("LESS_THAN", "\x7b0\x7d < \x7b1\x7d", 1),
    ("LESS_THAN_OR_EQUAL", "\x7b0\x7d <= \x7b1\x7d", 1),
    ("LIKE", "\x7b0\x7d LIKE \x7b1\x7d", 1),
    ("NOT_LIKE", "\x7b0\x7d NOT LIKE \x7b1\x7d", 1),
    ("BETWEEN", "\x7b0\x7d BETWEEN \x7b1\x7d AND \x7b2\x7d", 2),
    ("NOT_BETWEEN", "\x7b0\x7d NOT BETWEEN \x7b1\x7d AND \x7b2\x7d", 2)
  ].map fun (name, template, arity) => (name, ⟨name, template, arity⟩))

/-- The names in the order of their code points. -/
def sortedNames (table : OperatorTable) : List String := Text.sorted table.names

/-- The operators in the order of their names. -/
def sortedOperators (table : OperatorTable) : List Operator :=
  table.sortedNames.filterMap table.find?

def get (table : OperatorTable) (name : String) : Except Error Operator :=
  match table.find? name with
  | some op => .ok op
  | none => .error (.unknownOperator name table.sortedNames)

/-- Defines an operator and puts it in the place of an earlier one of that name. -/
def register (table : OperatorTable) (name template : String) (arity : Int) :
    Except Error (Operator × OperatorTable) := do
  let op ← Operator.define name template arity
  return (op, table.put name op)

example : (builtIn.get "BETWEEN").toOption.map (·.arity) = some 2 := by decide +kernel
example : builtIn.sortedOperators.length = 12 := by decide +kernel
example : builtIn.sortedOperators.all fun op =>
    (Operator.define op.name op.template op.arity).toOption = some op := by decide +kernel
example : (Operator.define "X" "\x7b0\x7d \x7b01\x7d" 1).toOption = none := by decide +kernel
example : (Operator.define "X" "\x7b0\x7d" (-5)).toOption.isSome := by decide +kernel

end OperatorTable
end Criteria
