import Criteria.Proofs.Condition.Making

/-!
# Calls

What a command can be asked for, and what comes back. A call that creates parameters to be bound
gives them the next names, one after the other, and no call hands a name back.
-/

namespace Criteria

open Build

/-- What a command can be asked for. -/
inductive Call where
  | nextName
  | parameter (column : Option String) (value : Value) (type : Option DataType)
  | literal (column : Option String) (value : Value) (type : Option DataType)
  | expression (column expr : Option String)
  | compare (column : Option String) (operator : String) (values : List Value)
      (type : Option DataType)
  | compareColumn (column : Option String) (operator : String)
      (otherColumn otherTable : Option String)
  | compareExpression (column : Option String) (operator : String) (expr : Option String)
  | inValues (column : Option String) (values : Value) (type : Option DataType) (negated : Bool)
  | inDelimited (column text : Option String) (type : DataType) (separator : String)
      (negated : Bool)
  | inParameters (column : Option String) (items : Option (List Parameter)) (negated : Bool)
  | ofParameters (operator : String) (first : Parameter) (second : Option Parameter)
  | ofItems (column : Option String) (items : List Parameter) (negated : Bool)
  /-- Joins conditions, on the command itself or on that of the first condition. -/
  | join (connective : Connective) (conditions : List Condition) (onSelf : Bool)
  | ofGroup (connective : Connective) (conditions : List Condition)
  | negate (condition : Option Condition)
  | ofNegation (condition : Condition)

inductive Answer where
  | name (s : String)
  | parameter (p : Parameter)
  | condition (d : Condition)

namespace Call

def run (operators : OperatorTable) (c : Command) : Call → Build Answer
  | nextName => .name <$> c.nextName
  | parameter column value type => .parameter <$> c.parameter column value type
  | literal column value type => .parameter <$> Command.literal column value type
  | expression column expr => .parameter <$> Command.expression column expr
  | compare column operator values type =>
    .condition <$> Condition.compare operators c column operator values type
  | compareColumn column operator otherColumn otherTable =>
    .condition <$> Condition.compareColumn operators c column operator otherColumn otherTable
  | compareExpression column operator expr =>
    .condition <$> Condition.compareExpression operators c column operator expr
  | inValues column values type negated =>
    .condition <$> Condition.inValues c column values type negated
  | inDelimited column text type separator negated =>
    .condition <$> Condition.inDelimited c column text type separator negated
  | inParameters column items negated =>
    .condition <$> (liftM (Condition.inParameters c column items negated) : Build Condition)
  | ofParameters operator first second =>
    .condition <$> (liftM (Condition.ofParameters operators c operator first second) :
      Build Condition)
  | ofItems column items negated =>
    .condition <$> (liftM (Condition.ofItems c column items negated) : Build Condition)
  | join connective conditions onSelf =>
    .condition <$> (liftM (Condition.join connective conditions (if onSelf then some c else none)) :
      Build Condition)
  | ofGroup connective conditions =>
    .condition <$> (liftM (Condition.ofGroup c connective conditions) : Build Condition)
  | negate condition => .condition <$> (liftM (Condition.negate condition) : Build Condition)
  | ofNegation condition =>
    .condition <$> (liftM (Condition.ofNegation c condition) : Build Condition)

/-- Whether the parameters in the answer have been created by the call itself. -/
def creates : Call → Bool
  | inParameters .. => false
  | ofParameters .. => false
  | ofItems .. => false
  | _ => true

end Call

/-- The parameters that a condition holds itself, not through other conditions. -/
def Condition.held : Condition → List Parameter
  | comparison _ _ first second => first :: second.toList
  | membership _ _ items _ => items
  | group .. => []
  | negation .. => []

def Answer.held : Answer → List Parameter
  | name _ => []
  | parameter p => [p]
  | condition d => d.held

theorem Answer.condition_ok {x : Build Condition} {s t : Supply} {d : Condition}
    (h : (Answer.condition <$> x).run.run s = (.ok (.condition d), t)) :
    x.run.run s = (.ok d, t) := by
  obtain ⟨_, hx, same⟩ := map_ok_iff.mp h
  cases same
  exact hx

namespace Condition

theorem staysTaken_compare {table : OperatorTable} {c : Command} {column : Option String}
    {operator : String} {values : List Value} {type : Option DataType} :
    StaysTaken (compare table c column operator values type) := by
  refine staysTaken_bind (staysTaken_lift _) fun op => ?_
  by_cases count : (values.length : Int) = op.arity
  · simp only [count, ne_eq, not_true_eq_false, if_false]
    by_cases bare : op.arity = 0
    · rw [if_pos bare]
      exact staysTaken_bind (staysTaken_literal column .null type) fun first => staysTaken_lift _
    · rw [if_neg bare]
      refine staysTaken_bind (staysTaken_mapM (fun v => staysTaken_parameter c column v type)
        values) fun items => ?_
      match items with
      | [] => exact staysTaken_throw _
      | [_] => exact staysTaken_lift _
      | [_, _] => exact staysTaken_lift _
      | _ :: _ :: _ :: _ => exact staysTaken_throw _
  · simp only [count, ne_eq, not_false_eq_true, if_true]
    exact staysTaken_throw _

theorem staysTaken_compareExpression {table : OperatorTable} {c : Command} {column : Option String}
    {operator : String} {expr : Option String} :
    StaysTaken (compareExpression table c column operator expr) := by
  refine staysTaken_bind (staysTaken_lift _) fun op => ?_
  by_cases count : op.arity = 1
  · simp only [count, ne_eq, not_true_eq_false, if_false]
    exact staysTaken_bind (staysTaken_expression column expr) fun first => staysTaken_lift _
  · simp only [count, ne_eq, not_false_eq_true, if_true]
    exact staysTaken_throw _

theorem staysTaken_compareColumn {table : OperatorTable} {c : Command} {column : Option String}
    {operator : String} {otherColumn otherTable : Option String} :
    StaysTaken (compareColumn table c column operator otherColumn otherTable) := by
  unfold compareColumn
  by_cases missing : otherColumn.getD "" = ""
  · simp only [missing, if_true]
    exact staysTaken_throw _
  · simp only [missing, if_false]
    exact staysTaken_compareExpression

theorem staysTaken_inList {c : Command} {column : Option String} {values : List Value}
    {type : Option DataType} {negated : Bool} :
    StaysTaken (inList c column values type negated) :=
  staysTaken_bind (staysTaken_mapM (fun v => staysTaken_parameter c column v _) values)
    fun _ => staysTaken_lift _

theorem staysTaken_inValues {c : Command} {column : Option String} {values : Value}
    {type : Option DataType} {negated : Bool} :
    StaysTaken (inValues c column values type negated) :=
  staysTaken_bind (staysTaken_lift _) fun _ => staysTaken_inList

theorem staysTaken_inDelimited {c : Command} {column text : Option String} {type : DataType}
    {separator : String} {negated : Bool} :
    StaysTaken (inDelimited c column text type separator negated) := by
  unfold inDelimited
  by_cases empty : separator = ""
  · simp only [empty, if_true]
    exact staysTaken_throw _
  · simp only [empty, if_false]
    exact staysTaken_bind (staysTaken_mapM (fun t => staysTaken_lift _) _)
      fun _ => staysTaken_inList

end Condition

theorem staysTaken_call (operators : OperatorTable) (c : Command) (call : Call) :
    StaysTaken (call.run operators c) := by
  cases call with
  | nextName => exact staysTaken_map _ (staysTaken_nextName c)
  | parameter column value type => exact staysTaken_map _ (staysTaken_parameter c column value type)
  | literal column value type => exact staysTaken_map _ (staysTaken_literal column value type)
  | expression column expr => exact staysTaken_map _ (staysTaken_expression column expr)
  | compare => exact staysTaken_map _ (Condition.staysTaken_compare)
  | compareColumn => exact staysTaken_map _ (Condition.staysTaken_compareColumn)
  | compareExpression => exact staysTaken_map _ (Condition.staysTaken_compareExpression)
  | inValues => exact staysTaken_map _ (Condition.staysTaken_inValues)
  | inDelimited => exact staysTaken_map _ (Condition.staysTaken_inDelimited)
  | inParameters => exact staysTaken_map _ (staysTaken_lift _)
  | ofParameters => exact staysTaken_map _ (staysTaken_lift _)
  | ofItems => exact staysTaken_map _ (staysTaken_lift _)
  | join => exact staysTaken_map _ (staysTaken_lift _)
  | ofGroup => exact staysTaken_map _ (staysTaken_lift _)
  | negate => exact staysTaken_map _ (staysTaken_lift _)
  | ofNegation => exact staysTaken_map _ (staysTaken_lift _)

/-- A list of parameters that takes the names from the next one on, as far as they are bound. -/
def Command.Takes (c : Command) (s t : Supply) (items : List Parameter) : Prop :=
  c.Numbers s.next (items.filter (·.bindable)) ∧
    s.next + (items.filter (·.bindable)).length ≤ t.next

namespace Command

theorem takes_nil {c : Command} {s t : Supply} (taken : s.next ≤ t.next) : c.Takes s t [] :=
  ⟨trivial, taken⟩

theorem takes_of_numbers {c : Command} {s t : Supply} {items : List Parameter}
    (h : c.Numbers s.next items) (left : t.next = s.next + items.length) : c.Takes s t items := by
  rw [Takes, filter_bindable_of_numbers h]
  exact ⟨h, Nat.le_of_eq left.symm⟩

/-- Without parameters to be bound no name is needed. -/
theorem takes_of_not_bindable {c : Command} {s t : Supply} {items : List Parameter}
    (h : ∀ p ∈ items, p.bindable = false) (taken : s.next ≤ t.next) : c.Takes s t items := by
  have nothing : items.filter (·.bindable) = [] := by simpa using h
  rw [Takes, nothing]
  exact Command.takes_nil taken

end Command

namespace Condition

theorem takes_compare {table : OperatorTable} {c : Command} {column : Option String}
    {operator : String} {values : List Value} {type : Option DataType} {d : Condition}
    {s t : Supply} (h : (compare table c column operator values type).run.run s = (.ok d, t)) :
    c.Takes s t d.held := by
  obtain ⟨op, first, second, -, -, made, -, bound, left⟩ := compare_ok h
  obtain ⟨op', -, -, rfl⟩ := ofParameters_ok made
  rcases bound with ⟨rfl, written, rfl⟩ | ⟨rfl, numbers⟩
  · exact Command.takes_of_not_bindable (by simpa [held] using written) (Nat.le_of_eq left.symm)
  · exact Command.takes_of_numbers numbers (by simpa [held] using left)

theorem takes_compareExpression {table : OperatorTable} {c : Command} {column : Option String}
    {operator : String} {expr : Option String} {d : Condition} {s t : Supply}
    (h : (compareExpression table c column operator expr).run.run s = (.ok d, t)) :
    c.Takes s t d.held := by
  obtain ⟨op, first, -, -, made, -, -, written, left⟩ := compareExpression_ok h
  obtain ⟨op', -, -, rfl⟩ := ofParameters_ok made
  exact Command.takes_of_not_bindable (by simpa [held] using written) (Nat.le_of_eq left.symm)

theorem takes_inList {c : Command} {column : Option String} {values : List Value}
    {type : Option DataType} {negated : Bool} {d : Condition} {s t : Supply}
    (h : (inList c column values type negated).run.run s = (.ok d, t)) : c.Takes s t d.held := by
  obtain ⟨items, rfl, -, -, numbers, left⟩ := inList_ok h
  exact Command.takes_of_numbers numbers left

end Condition

/-- What a call creates to be bound takes the names from the next one on. -/
theorem call_takes {operators : OperatorTable} {c : Command} {call : Call} {answer : Answer}
    {s t : Supply} (h : (call.run operators c).run.run s = (.ok answer, t))
    (creates : call.creates = true) : c.Takes s t answer.held := by
  have taken : s.next ≤ t.next := by simpa [h] using staysTaken_call operators c call s
  cases call with
  | nextName =>
    obtain ⟨name, -, rfl⟩ := map_ok_iff.mp h
    exact Command.takes_nil taken
  | parameter column value type =>
    obtain ⟨p, hp, rfl⟩ := map_ok_iff.mp h
    obtain ⟨-, -, name, ht⟩ := Command.parameter_ok hp
    have numbers : c.Numbers s.next [p] := ⟨name, trivial⟩
    exact Command.takes_of_numbers numbers ht
  | literal column value type =>
    obtain ⟨p, hp, rfl⟩ := map_ok_iff.mp h
    obtain ⟨-, -, written, -⟩ := Command.literal_ok hp
    exact Command.takes_of_not_bindable (by simpa [Answer.held] using written) taken
  | expression column expr =>
    obtain ⟨p, hp, rfl⟩ := map_ok_iff.mp h
    obtain ⟨-, -, written, -⟩ := Command.expression_ok hp
    exact Command.takes_of_not_bindable (by simpa [Answer.held] using written) taken
  | compare column operator values type =>
    obtain ⟨d, hd, rfl⟩ := map_ok_iff.mp h
    exact Condition.takes_compare hd
  | compareColumn column operator otherColumn otherTable =>
    obtain ⟨d, hd, rfl⟩ := map_ok_iff.mp h
    obtain ⟨expr, hd⟩ := Condition.compareColumn_ok hd
    exact Condition.takes_compareExpression hd
  | compareExpression column operator expr =>
    obtain ⟨d, hd, rfl⟩ := map_ok_iff.mp h
    exact Condition.takes_compareExpression hd
  | inValues column values type negated =>
    obtain ⟨d, hd, rfl⟩ := map_ok_iff.mp h
    obtain ⟨list, -, hd⟩ := Condition.inValues_ok hd
    exact Condition.takes_inList hd
  | inDelimited column text type separator negated =>
    obtain ⟨d, hd, rfl⟩ := map_ok_iff.mp h
    obtain ⟨list, -, hd⟩ := Condition.inDelimited_ok hd
    exact Condition.takes_inList hd
  | inParameters => cases creates
  | ofParameters => cases creates
  | ofItems => cases creates
  | join connective conditions onSelf =>
    obtain ⟨d, hd, rfl⟩ := map_ok_iff.mp h
    obtain ⟨made, -⟩ := Condition.join_ok (lift_ok_iff.mp hd).1
    rw [made]
    exact Command.takes_nil taken
  | ofGroup connective conditions =>
    obtain ⟨d, hd, rfl⟩ := map_ok_iff.mp h
    obtain ⟨rfl, -⟩ := Condition.ofGroup_ok (lift_ok_iff.mp hd).1
    exact Command.takes_nil taken
  | negate condition =>
    obtain ⟨d, hd, rfl⟩ := map_ok_iff.mp h
    obtain ⟨inner, -, rfl⟩ := Condition.negate_ok (lift_ok_iff.mp hd).1
    exact Command.takes_nil taken
  | ofNegation condition =>
    obtain ⟨d, hd, rfl⟩ := map_ok_iff.mp h
    obtain ⟨rfl, -⟩ := Condition.ofNegation_ok (lift_ok_iff.mp hd).1
    exact Command.takes_nil taken

end Criteria
