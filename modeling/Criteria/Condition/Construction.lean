import Criteria.Condition
import Criteria.DataType.Literal
import Criteria.Text.Lines

/-!
# Making conditions

How conditions come about. Each call checks what it is given before a condition exists.
-/

namespace Criteria.Condition

/-- A comparison of given parameters, if they are as many as the operator takes. A comparison with
an operator without values still has a parameter, for its column. -/
def ofParameters (table : OperatorTable) (c : Command) (operator : String) (first : Parameter)
    (second : Option Parameter) : Except Error Condition := do
  let op ← table.get operator
  let count : Int := (if op.arity = 0 then 0 else 1) + (if second.isSome then 1 else 0)
  if count ≠ op.arity then
    throw (.showing op.arity (.wrongCount (some first.column) op.name op.arity count))
  return comparison c op.name first second

/-- Compares a column with values that are bound, as many as the operator takes. -/
def compare (table : OperatorTable) (c : Command) (column : Option String) (operator : String)
    (values : List Value) (type : Option DataType) : Build Condition := do
  let op ← table.get operator
  if (values.length : Int) ≠ op.arity then
    throw (.showing op.arity (.wrongCount column op.name op.arity values.length))
  if op.arity = 0 then
    ofParameters table c op.name (← Command.literal column .null type) none
  else
    match ← values.mapM fun v => c.parameter column v type with
    | [first] => ofParameters table c op.name first none
    | [first, second] => ofParameters table c op.name first (some second)
    | _ => throw .tooManyValues

/-- Compares a column with an expression that is written into the statement. -/
def compareExpression (table : OperatorTable) (c : Command) (column : Option String)
    (operator : String) (expr : Option String) : Build Condition := do
  let op ← table.get operator
  if op.arity ≠ 1 then throw (.showing op.arity (.wrongCount column op.name op.arity 1))
  ofParameters table c op.name (← Command.expression column expr) none

/-- Compares a column with another one, perhaps of another table. -/
def compareColumn (table : OperatorTable) (c : Command) (column : Option String)
    (operator : String) (otherColumn otherTable : Option String) : Build Condition := do
  let other := otherColumn.getD ""
  if other = "" then throw (.missingOtherColumn column)
  let owner := otherTable.getD ""
  compareExpression table c column operator (if owner = "" then other else owner ++ "." ++ other)

/-- A membership of given parameters, which must all be for its column. -/
def ofItems (c : Command) (column : Option String) (items : List Parameter) (negated : Bool) :
    Except Error Condition :=
  match items.find? fun p => some p.column ≠ column with
  | some p => .error (.strayParameter column p.column)
  | none => .ok (membership c column items negated)

theorem ofItems_eq_ok_iff {c : Command} {column : Option String} {items : List Parameter}
    {negated : Bool} {d : Condition} :
    ofItems c column items negated = .ok d ↔
      (∀ p ∈ items, some p.column = column) ∧ d = membership c column items negated := by
  unfold ofItems
  constructor
  · intro h
    cases hf : items.find? fun p => some p.column ≠ column with
    | none =>
      rw [hf] at h
      refine ⟨fun p hp => by simpa using List.find?_eq_none.mp hf p hp, ?_⟩
      exact (Except.ok.inj h).symm
    | some p => rw [hf] at h; cases h
  · rintro ⟨h, rfl⟩
    have hf : items.find? (fun p => some p.column ≠ column) = none := by
      rw [List.find?_eq_none]
      intro p hp
      simp [h p hp]
    rw [hf]

/-- A membership of given parameters, for the column of the first unless one is named. -/
def inParameters (c : Command) (column : Option String) (items : Option (List Parameter))
    (negated : Bool) : Except Error Condition :=
  match items with
  | none => .error (.missingParameters column)
  | some items =>
    let own := match items with
      | [] => ""
      | p :: _ => p.column
    ofItems c (some (column.getD own)) items negated

/-- A membership of values that are bound. They have one kind, that of the first value that is not
null unless it is given. -/
def inList (c : Command) (column : Option String) (values : List Value) (type : Option DataType)
    (negated : Bool) : Build Condition := do
  let type := type.getD (.inferFirst values)
  let items ← values.mapM fun v => c.parameter column v (some type)
  ofItems c column items negated

/-- The values in a collection. Null counts as an empty one, and a buffer holds numbers. -/
def elements (column : Option String) : Value → Except Error (List Value)
  | .null => .ok []
  | .list items => .ok items
  | .buffer content => .ok (content.map fun b => .int b.toNat)
  | .text _ => .error (.textForValues column)
  | .bytes _ => .error (.textForValues column)
  | _ => .error .notCollection

/-- A membership of the values in a collection. -/
def inValues (c : Command) (column : Option String) (values : Value) (type : Option DataType)
    (negated : Bool) : Build Condition := do
  inList c column (← elements column values) type negated

/-- The entries of a delimited text, trimmed, without the blank ones. -/
def tokens (separator text : String) : List String :=
  ((Text.cut separator text).map Text.trim).filter (· ≠ "")

def readToken (column : Option String) (type : DataType) (token : String) : Except Error Value :=
  match type.read? token with
  | some v => .ok v
  | none => .error (.badLiteral column token type)

/-- A membership of the values that a delimited text spells. All of them are read before the first
is bound. -/
def inDelimited (c : Command) (column text : Option String) (type : DataType)
    (separator : String) (negated : Bool) : Build Condition := do
  if separator = "" then throw (.emptySeparator column)
  let values ← (tokens separator (text.getD "")).mapM fun t => readToken column type t
  inList c column values (some type) negated

/-- Refuses the first of some conditions that was built on another command. -/
def requireCommand (c : Command) (conditions : List Condition) : Except Error Unit :=
  match conditions.find? fun d => d.command ≠ c with
  | some d => .error (.foreignCondition d.kind)
  | none => .ok ()

theorem requireCommand_eq_ok_iff {c : Command} {conditions : List Condition} :
    requireCommand c conditions = .ok () ↔ ∀ d ∈ conditions, d.command = c := by
  unfold requireCommand
  constructor
  · intro h d hd
    cases hf : conditions.find? fun d => d.command ≠ c with
    | none => simpa using List.find?_eq_none.mp hf d hd
    | some e => rw [hf] at h; cases h
  · intro h
    have hf : conditions.find? (fun d => d.command ≠ c) = none := by
      rw [List.find?_eq_none]
      intro d hd
      simp [h d hd]
    rw [hf]

def ofGroup (c : Command) (connective : Connective) (conditions : List Condition) :
    Except Error Condition := do
  requireCommand c conditions
  return group c connective conditions

/-- Joins conditions, on the command of the first unless one is given. -/
def join (connective : Connective) (conditions : List Condition) (c : Option Command) :
    Except Error Condition :=
  match c, conditions with
  | some c, _ => ofGroup c connective conditions
  | none, first :: _ => ofGroup first.command connective conditions
  | none, [] => .error .emptyGroup

def ofNegation (c : Command) (condition : Condition) : Except Error Condition := do
  requireCommand c [condition]
  return negation c condition

def negate (condition : Option Condition) : Except Error Condition :=
  match condition with
  | some condition => ofNegation condition.command condition
  | none => .error .missingCondition

end Criteria.Condition
