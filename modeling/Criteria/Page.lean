import Criteria.Compiled

/-!
# Pages of a result

Pages of a result: `size` rows from the row `index * size` on. Each pager writes the same window
in the terms of its backend.
-/

namespace Criteria

namespace Pager

def rowNumberColumn : String := "__row_number"

/-- The statement for `limit` rows behind the first `offset`. -/
def render (pager : Pager) (operators : OperatorTable) (q : Select) (d : Dialect)
    (offset limit : Nat) (ordering : List OrderItem) : Except Error String := do
  let order := OrderItem.clause ordering
  let rowNumber := d.quote rowNumberColumn
  match pager with
  | .limitOffset =>
    let body ← q.body operators
    let skipped ← integerText offset
    return Text.lines [q.head, body, order, "LIMIT " ++ (← integerText limit),
      if offset = 0 then "" else "OFFSET " ++ skipped]
  | .offsetFetch =>
    if offset = 0 then
      return Text.lines [q.keyword ++ " TOP (" ++ (← integerText limit) ++ ") " ++ q.selectList,
        ← q.body operators, order]
    if order = "" then throw (.unorderedPage d.name offset)
    return Text.lines [q.head, ← q.body operators, order,
      "OFFSET " ++ (← integerText offset) ++ " ROWS",
      "FETCH NEXT " ++ (← integerText limit) ++ " ROWS ONLY"]
  | .rowNumber =>
    let numberedBy := if order = "" then "ORDER BY (SELECT 0)" else order
    let numbering := "ROW_NUMBER() OVER (" ++ numberedBy ++ ") AS " ++ rowNumber
    let source := d.quote "__distinct"
    let body ← q.body operators
    let inner :=
      if q.distinct then
        Text.lines ["SELECT " ++ source ++ ".*, " ++ numbering ++ " FROM (",
          Text.lines [q.head, body], ") AS " ++ source]
      else Text.lines ["SELECT " ++ q.selectList ++ ", " ++ numbering, body]
    return Text.lines ["SELECT * FROM (", inner, ") AS " ++ d.quote "__paged",
      "WHERE " ++ rowNumber ++ " BETWEEN " ++ (← integerText (offset + 1 : Nat)) ++ " AND " ++
        (← integerText (offset + limit : Nat)),
      "ORDER BY " ++ rowNumber]
  | .rownum =>
    let ordered := d.quote "__ordered"
    let base := Text.lines [q.head, ← q.body operators, order]
    return Text.lines ["SELECT * FROM (",
      "SELECT " ++ ordered ++ ".*, ROWNUM AS " ++ rowNumber ++ " FROM (", base, ") " ++ ordered,
      "WHERE ROWNUM <= " ++ (← integerText (offset + limit : Nat)), ")",
      "WHERE " ++ rowNumber ++ " > " ++ (← integerText offset)]

end Pager

namespace Dialect

/-- Refuses a condition that was built for another dialect, by its name. -/
def requireDialect (d : Dialect) (c : Option Condition) : Except Error Unit :=
  match c with
  | none => .ok ()
  | some c =>
    let builtFor := c.command.dialect.name
    if builtFor = d.name then .ok () else .error (.foreignDialect builtFor d.name)

/-- One page of a query, counted from zero. -/
def paginate (d : Dialect) (operators : OperatorTable) (q : Select) (index size : Int)
    (reverse : Bool) : Except Error Compiled := do
  if index < 0 then throw (.showing index (.negativePage index))
  if size ≤ 0 then throw (.showing size (.badPageSize size))
  d.requireDialect q.filter
  d.requireDialect q.having
  let ordering ← q.ordering reverse
  let sql ← d.pager.render operators q d (index * size).toNat size.toNat ordering
  return ⟨sql, ← q.bindings operators, d.name⟩

end Dialect
end Criteria
