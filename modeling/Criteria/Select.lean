import Criteria.Condition.Construction
import Criteria.Condition.Equality

/-!
# Select statements

Select statements without paging: a source with its columns, filters, groups and order.
-/

namespace Criteria

structure OrderItem where
  expr : String
  descending : Bool
deriving DecidableEq

namespace OrderItem

def reversed (o : OrderItem) : OrderItem := { o with descending := !o.descending }

def text (o : OrderItem) : String := o.expr ++ (if o.descending then " DESC" else " ASC")

/-- The clause for some items, empty if there are none. -/
def clause (items : List OrderItem) : String :=
  if items.isEmpty then "" else "ORDER BY " ++ String.intercalate ", " (items.map text)

end OrderItem

structure Select where
  table : String
  columns : List String
  filter : Option Condition
  groupBy : List String
  having : Option Condition
  orderBy : List OrderItem
  distinct : Bool

/-- What a statement has in common with the statements that are equal to it. -/
structure SelectKey where
  table : String
  columns : List String
  filter : Option Condition.Shape
  groupBy : List String
  having : Option Condition.Shape
  orderBy : List OrderItem
  distinct : Bool
deriving DecidableEq

namespace SelectKey

def digest (k : SelectKey) : UInt64 :=
  hash (k.table, k.columns, k.filter.map (·.digest), k.groupBy, k.having.map (·.digest),
    k.orderBy.map (fun o => (o.expr, o.descending)), k.distinct)

def compared (a b : SelectKey) : Comparison :=
  (Comparison.ofEq (a.table, a.columns) (b.table, b.columns)).andThen
    ((Comparison.options Condition.Shape.compared a.filter b.filter).andThen
      ((Comparison.ofEq a.groupBy b.groupBy).andThen
        ((Comparison.options Condition.Shape.compared a.having b.having).andThen
          (.ofEq (a.orderBy, a.distinct) (b.orderBy, b.distinct)))))

theorem compared_eq_true_iff (a b : SelectKey) : a.compared b = some true ↔ a = b := by
  cases a
  cases b
  simp [compared, Comparison.andThen_eq_true_iff, Comparison.ofEq_eq_true_iff,
    Comparison.options_eq_true_iff Condition.Shape.compared_eq_true_iff, and_assoc]

end SelectKey

namespace Select

/-- Makes a statement. It needs a source, and both its conditions have to be built on one
command. Without columns it selects all of them. -/
def make (table : Option String) (columns : List String) (filter : Option Condition)
    (groupBy : List String) (having : Option Condition) (orderBy : List OrderItem)
    (distinct : Bool) : Except Error Select := do
  let table := table.getD ""
  if table = "" then throw .missingSource
  if let (some filter, some having) := (filter, having) then
    Condition.requireCommand filter.command [having]
  return {
    table, filter, groupBy, having, orderBy, distinct
    columns := if columns.isEmpty then ["*"] else columns }

def key (q : Select) : SelectKey :=
  ⟨q.table, q.columns, q.filter.map (·.shape), q.groupBy, q.having.map (·.shape), q.orderBy,
    q.distinct⟩

def selectList (q : Select) : String := String.intercalate ", " q.columns

def keyword (q : Select) : String := if q.distinct then "SELECT DISTINCT" else "SELECT"

def head (q : Select) : String := q.keyword ++ " " ++ q.selectList

/-- The text of a condition that may be absent. -/
def conditionText (operators : OperatorTable) (c : Option Condition) : Except Error String :=
  match c with
  | some c => c.text operators
  | none => .ok ""

/-- A clause with its keyword, empty if it has no text. -/
def clause (keyword text : String) : String := if text = "" then "" else keyword ++ " " ++ text

/-- Everything from the source on, without the order. -/
def body (operators : OperatorTable) (q : Select) : Except Error String := do
  let filter ← conditionText operators q.filter
  let having ← conditionText operators q.having
  return Text.lines ["FROM " ++ q.table, clause "WHERE" filter,
    if q.groupBy.isEmpty then "" else "GROUP BY " ++ String.intercalate ", " q.groupBy,
    clause "HAVING" having]

/-- The order of the result, or the reverse of it. -/
def ordering (q : Select) (reverse : Bool) : Except Error (List OrderItem) :=
  if reverse then
    if q.orderBy.isEmpty then .error (.nothingToReverse q.table)
    else .ok (q.orderBy.map .reversed)
  else .ok q.orderBy

def toSql (operators : OperatorTable) (q : Select) (reverse : Bool) : Except Error String := do
  let body ← q.body operators
  return Text.lines [q.head, body, OrderItem.clause (← q.ordering reverse)]

/-- The parameters of a condition that has a text. -/
def conditionParameters (operators : OperatorTable) (c : Option Condition) :
    Except Error (List Parameter) := do
  match c with
  | none => return []
  | some c =>
    if (← c.text operators) = "" then return []
    return (← c.parameters operators).getD []

def parameters (operators : OperatorTable) (q : Select) : Except Error (List Parameter) := do
  return (← conditionParameters operators q.filter) ++ (← conditionParameters operators q.having)

def bindings (operators : OperatorTable) (q : Select) : Except Error Bindings := do
  return .ofParameters (← q.parameters operators)

end Select
end Criteria
