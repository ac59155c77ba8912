import Criteria.Proofs.Equality

/-!
# Calls on two commands

One call on two commands, of any dialects and however far they have come. It succeeds on both or
fails on both for one cause, and what the two come to has one form, with parameters that differ in
their names and placeholders at most.
-/

namespace Criteria

open Build

/-- What two commands have created for one value. The value is a number if it is to be one, provided
that `free` is true. -/
structure Parameter.Counterpart (free : Prop) (p q : Parameter) : Prop extends p.Twin q where
  nanFree : free → p.NanFree

variable {free : Prop} {c c' : Command}

/-- What two commands have put together from counterparts. -/
structure Condition.Counterpart (free : Prop) (c c' : Command) (d e : Condition) : Prop where
  left : d.command = c
  right : e.command = c'
  form : d.Matches (Parameter.Counterpart free) e

namespace Command

theorem lockstep_requireColumn (column : Option String) :
    Lockstep Eq (requireColumn column) (requireColumn column) := by
  cases column with
  | none => exact lockstep_throw _
  | some column =>
    by_cases blank : Text.isBlank column = true
    · simpa [requireColumn, blank] using lockstep_throw _
    · have same : Lockstep Eq (pure column : Build String) (pure column) := lockstep_pure rfl
      simpa [requireColumn, blank] using same

theorem lockstep_nextName : Lockstep (fun _ _ => True) c.nextName c'.nextName :=
  fun _ _ => trivial

theorem lockstep_nextOrigin : Lockstep (fun _ _ => True) nextOrigin nextOrigin :=
  fun _ _ => trivial

/-- Names, placeholders and origins may differ, as a counterpart shares none of them. -/
theorem lockstep_parameter (column : Option String) {value : Value} (type : Option DataType)
    (own : free → value.hasNan = false) :
    Lockstep (Parameter.Counterpart free) (c.parameter column value type)
      (c'.parameter column value type) := by
  refine lockstep_bind (lockstep_requireColumn column) fun column _ same => ?_
  subst same
  refine lockstep_bind lockstep_nextName fun name name' _ => ?_
  refine lockstep_bind lockstep_nextOrigin fun origin origin' _ => ?_
  exact lockstep_pure ⟨⟨rfl, rfl, rfl, rfl⟩, own⟩

theorem lockstep_literal (column : Option String) {value : Value} (type : Option DataType)
    (own : free → value.hasNan = false) :
    Lockstep (Parameter.Counterpart free) (literal column value type)
      (literal column value type) := by
  refine lockstep_bind (lockstep_requireColumn column) fun column _ same => ?_
  subst same
  refine lockstep_bind lockstep_nextOrigin fun origin origin' _ => ?_
  exact lockstep_pure ⟨⟨rfl, rfl, rfl, rfl⟩, own⟩

theorem lockstep_expression (column expr : Option String) :
    Lockstep (Parameter.Counterpart free) (expression column expr) (expression column expr) := by
  refine lockstep_bind (lockstep_requireColumn column) fun column _ same => ?_
  subst same
  by_cases blank : Text.isBlank (expr.getD "") = true
  · simp only [blank, if_true]
    exact lockstep_throw _
  · simp only [blank]
    exact lockstep_literal _ _ fun _ => rfl

end Command

namespace Condition

variable {table : OperatorTable}

/-- What is checked and reported is how many values there are and the column, and counterparts agree
in both. -/
theorem ofParameters_inStep {operator : String} {first first' : Parameter}
    {second second' : Option Parameter} (firsts : first.Counterpart free first')
    (seconds : Option.Rel (Parameter.Counterpart free) second second') :
    InStep (Counterpart free c c') (ofParameters table c operator first second)
      (ofParameters table c' operator first' second') := by
  have given : second.isSome = second'.isSome := by cases seconds <;> rfl
  refine InStep.bind_same fun op _ => ?_
  simp only [given, firsts.column]
  by_cases count : ((if op.arity = 0 then 0 else 1) + (if second'.isSome then 1 else 0) : Int) =
      op.arity
  · rw [if_neg (not_not.mpr count), if_neg (not_not.mpr count)]
    exact ⟨rfl, rfl, .comparison firsts seconds⟩
  · rw [if_pos count, if_pos count]
    rfl

theorem lockstep_compare {column : Option String} {operator : String} {values : List Value}
    {type : Option DataType} (own : free → ∀ v ∈ values, v.hasNan = false) :
    Lockstep (Counterpart free c c') (compare table c column operator values type)
      (compare table c' column operator values type) := by
  refine lockstep_lift_bind fun op _ => ?_
  by_cases count : (values.length : Int) = op.arity
  · simp only [count, ne_eq, not_true_eq_false, if_false]
    by_cases bare : op.arity = 0
    · rw [if_pos bare, if_pos bare]
      have written : Lockstep (Parameter.Counterpart free) (Command.literal column .null type)
          (Command.literal column .null type) := Command.lockstep_literal column type fun _ => rfl
      exact lockstep_bind written fun p q h => lockstep_lift (ofParameters_inStep h .none)
    · rw [if_neg bare, if_neg bare]
      refine lockstep_bind (lockstep_mapM fun v hv =>
        Command.lockstep_parameter column type fun h => own h v hv) fun items items' each => ?_
      match items, items', each with
      | [], [], _ => exact lockstep_throw _
      | [_], [_], .cons h .nil => exact lockstep_lift (ofParameters_inStep h .none)
      | [_, _], [_, _], .cons h (.cons h' .nil) =>
        exact lockstep_lift (ofParameters_inStep h (.some h'))
      | _ :: _ :: _ :: _, _ :: _ :: _ :: _, _ => exact lockstep_throw _
  · simp only [count, ne_eq, not_false_eq_true, if_true]
    exact lockstep_throw _

theorem lockstep_compareExpression {column : Option String} {operator : String}
    {expr : Option String} :
    Lockstep (Counterpart free c c') (compareExpression table c column operator expr)
      (compareExpression table c' column operator expr) := by
  refine lockstep_lift_bind fun op _ => ?_
  by_cases count : op.arity = 1
  · simp only [count, ne_eq, not_true_eq_false, if_false]
    have written : Lockstep (Parameter.Counterpart free) (Command.expression column expr)
        (Command.expression column expr) := Command.lockstep_expression column expr
    exact lockstep_bind written fun p q h => lockstep_lift (ofParameters_inStep h .none)
  · simp only [count, ne_eq, not_false_eq_true, if_true]
    exact lockstep_throw _

theorem lockstep_compareColumn {column : Option String} {operator : String}
    {otherColumn otherTable : Option String} :
    Lockstep (Counterpart free c c') (compareColumn table c column operator otherColumn otherTable)
      (compareColumn table c' column operator otherColumn otherTable) := by
  unfold compareColumn
  by_cases missing : otherColumn.getD "" = ""
  · simp only [missing, if_true]
    exact lockstep_throw _
  · simp only [missing, if_false]
    exact lockstep_compareExpression

section Memberships

variable {column : Option String} {negated : Bool}

/-- A stray parameter is found at the same place. -/
theorem ofItems_inStep {items items' : List Parameter}
    (each : List.Forall₂ (Parameter.Counterpart free) items items') :
    InStep (Counterpart free c c') (ofItems c column items negated)
      (ofItems c' column items' negated) := by
  have found : Option.Rel (Parameter.Counterpart free)
      (items.find? fun p => some p.column ≠ column)
      (items'.find? fun p => some p.column ≠ column) := by
    induction each with
    | nil => exact .none
    | @cons p q rest rest' h _ ih =>
      rw [List.find?_cons, List.find?_cons, h.column]
      split
      · exact .some h
      · exact ih
  unfold ofItems
  generalize (items.find? fun p => some p.column ≠ column) = x at found ⊢
  generalize (items'.find? fun p => some p.column ≠ column) = y at found ⊢
  cases found with
  | none => exact ⟨rfl, rfl, .membership each⟩
  | some h => exact congrArg (Error.strayParameter column) h.column

theorem inParameters_inStep {items items' : Option (List Parameter)}
    (each : Option.Rel (List.Forall₂ (Parameter.Counterpart free)) items items') :
    InStep (Counterpart free c c') (inParameters c column items negated)
      (inParameters c' column items' negated) := by
  cases each with
  | none => rfl
  | some each =>
    cases each with
    | nil => exact ofItems_inStep .nil
    | cons h rest =>
      simp only [inParameters, h.column]
      exact ofItems_inStep (.cons h rest)

theorem lockstep_inList {values : List Value} {type : Option DataType}
    (own : free → ∀ v ∈ values, v.hasNan = false) :
    Lockstep (Counterpart free c c') (inList c column values type negated)
      (inList c' column values type negated) := by
  refine lockstep_bind (lockstep_mapM fun v hv =>
    Command.lockstep_parameter column _ fun h => own h v hv) fun items items' each => ?_
  exact lockstep_lift (ofItems_inStep each)

theorem hasNan_of_elements {values : Value} {list : List Value}
    (found : elements column values = .ok list) (own : values.hasNan = false) :
    ∀ v ∈ list, v.hasNan = false := by
  cases values with
  | list items =>
    cases found
    exact Value.anyNan_eq_false_iff.mp own
  | buffer content =>
    cases found
    intro v hv
    obtain ⟨b, -, rfl⟩ := List.mem_map.mp hv
    rfl
  | null =>
    cases found
    exact nofun
  | _ => cases found

theorem lockstep_inValues {values : Value} {type : Option DataType}
    (own : free → values.hasNan = false) :
    Lockstep (Counterpart free c c') (inValues c column values type negated)
      (inValues c' column values type negated) :=
  lockstep_lift_bind fun _ found => lockstep_inList fun h => hasNan_of_elements found (own h)

/-- The values that the entries of a delimited text spell. -/
def spelled (separator text : String) (type : DataType) : List Value :=
  (tokens separator text).filterMap type.read?

theorem spelled_eq_of_read {separator text : String} {type : DataType} {values : List Value}
    (read : (tokens separator text).mapM (readToken column type) = .ok values) :
    values = spelled separator text type := by
  unfold spelled
  generalize tokens separator text = entries at read ⊢
  induction entries generalizing values with
  | nil =>
    cases read
    rfl
  | cons entry entries ih =>
    rw [List.mapM_cons] at read
    obtain ⟨v, own, read⟩ := bind_eq_ok_iff.mp read
    obtain ⟨rest, others, read⟩ := bind_eq_ok_iff.mp read
    cases read
    cases found : type.read? entry with
    | none => simp [readToken, found] at own
    | some w =>
      obtain rfl : w = v := by simpa [readToken, found] using own
      rw [List.filterMap_cons_some found, ih others]

theorem lockstep_inDelimited {text : Option String} {type : DataType} {separator : String}
    (own : free → ∀ v ∈ spelled separator (text.getD "") type, v.hasNan = false) :
    Lockstep (Counterpart free c c') (inDelimited c column text type separator negated)
      (inDelimited c' column text type separator negated) := by
  unfold inDelimited
  by_cases empty : separator = ""
  · simp only [empty, if_true]
    exact lockstep_throw _
  · simp only [empty, if_false, mapM_lift]
    refine lockstep_lift_bind fun values read => lockstep_inList fun h => ?_
    rw [spelled_eq_of_read read]
    exact own h

end Memberships

section Composites

variable {conditions conditions' : List Condition}

/-- Where all conditions are of the command, none is refused. -/
theorem ofGroup_inStep {connective : Connective}
    (each : List.Forall₂ (Counterpart free c c') conditions conditions') :
    InStep (Counterpart free c c') (ofGroup c connective conditions)
      (ofGroup c' connective conditions') := by
  have own : (∀ d ∈ conditions, d.command = c) ∧ ∀ e ∈ conditions', e.command = c' := by
    induction each with
    | nil => exact ⟨nofun, nofun⟩
    | cons h _ ih =>
      exact ⟨List.forall_mem_cons.mpr ⟨h.left, ih.1⟩, List.forall_mem_cons.mpr ⟨h.right, ih.2⟩⟩
  rw [ofGroup, ofGroup, requireCommand_eq_ok_iff.mpr own.1, requireCommand_eq_ok_iff.mpr own.2]
  exact ⟨rfl, rfl, .group (each.imp fun _ _ h => h.form)⟩

theorem join_inStep {connective : Connective} (onSelf : Bool)
    (each : List.Forall₂ (Counterpart free c c') conditions conditions') :
    InStep (Counterpart free c c') (join connective conditions (if onSelf then some c else none))
      (join connective conditions' (if onSelf then some c' else none)) := by
  cases onSelf with
  | true => exact ofGroup_inStep each
  | false =>
    cases each with
    | nil => rfl
    | @cons d e rest rest' h others =>
      have made : InStep (Counterpart free c c') (ofGroup c connective (d :: rest))
          (ofGroup c' connective (e :: rest')) := ofGroup_inStep (.cons h others)
      rwa [← h.left, ← h.right] at made ⊢

theorem negate_inStep {condition condition' : Option Condition}
    (h : Option.Rel (Counterpart free c c') condition condition') :
    InStep (Counterpart free c c') (negate condition) (negate condition') := by
  cases h with
  | none => rfl
  | @some d e h =>
    have left : requireCommand d.command [d] = .ok () :=
      requireCommand_eq_ok_iff.mpr (List.forall_mem_singleton.mpr rfl)
    have right : requireCommand e.command [e] = .ok () :=
      requireCommand_eq_ok_iff.mpr (List.forall_mem_singleton.mpr rfl)
    rw [negate, negate, ofNegation, ofNegation, left, right]
    exact ⟨h.left, h.right, .negation h.form⟩

end Composites

end Condition

/-- What two commands have answered. Names are the commands' own. -/
inductive Answer.Counterpart (free : Prop) (c c' : Command) : Answer → Answer → Prop
  | name {s t : String} : Counterpart free c c' (.name s) (.name t)
  | parameter {p q : Parameter} (h : p.Counterpart free q) :
      Counterpart free c c' (.parameter p) (.parameter q)
  | condition {d e : Condition} (h : d.Counterpart free c c' e) :
      Counterpart free c c' (.condition d) (.condition e)

namespace Call

/-- The call is given nothing that other calls have made. -/
def isSelfContained : Call → Bool
  | inParameters .. => false
  | ofParameters .. => false
  | ofItems .. => false
  | join .. => false
  | ofGroup .. => false
  | negate .. => false
  | ofNegation .. => false
  | _ => true

/-- The values that the call is given. -/
def arguments : Call → List Value
  | parameter _ value _ => [value]
  | literal _ value _ => [value]
  | compare _ _ values _ => values
  | inValues _ values _ _ => [values]
  | _ => []

/-- The values that the call is given in writing. -/
def spelled : Call → List Value
  | inDelimited _ text type separator _ => Condition.spelled separator (text.getD "") type
  | _ => []

/-- One call, given what two commands have made. -/
inductive Counterpart (free : Prop) (c c' : Command) : Call → Call → Prop
  | same {call : Call} (alone : call.isSelfContained = true)
      (own : free → ∀ v ∈ call.arguments ++ call.spelled, v.hasNan = false) :
      Counterpart free c c' call call
  | inParameters {column : Option String} {items items' : Option (List Parameter)} {negated : Bool}
      (each : Option.Rel (List.Forall₂ (Parameter.Counterpart free)) items items') :
      Counterpart free c c' (.inParameters column items negated)
        (.inParameters column items' negated)
  | join {connective : Connective} {conditions conditions' : List Condition} {onSelf : Bool}
      (each : List.Forall₂ (Condition.Counterpart free c c') conditions conditions') :
      Counterpart free c c' (.join connective conditions onSelf)
        (.join connective conditions' onSelf)
  | negate {condition condition' : Option Condition}
      (h : Option.Rel (Condition.Counterpart free c c') condition condition') :
      Counterpart free c c' (.negate condition) (.negate condition')

variable {operators : OperatorTable} {call call' : Call}

theorem lockstep_same (alone : call.isSelfContained = true)
    (own : free → ∀ v ∈ call.arguments ++ call.spelled, v.hasNan = false) :
    Lockstep (Answer.Counterpart free c c') (call.run operators c) (call.run operators c') := by
  have given : free → ∀ v ∈ call.arguments, v.hasNan = false :=
    fun h => (List.forall_mem_append.mp (own h)).1
  have condition : ∀ {x y : Build Condition}, Lockstep (Condition.Counterpart free c c') x y →
      Lockstep (Answer.Counterpart free c c') (Answer.condition <$> x) (Answer.condition <$> y) :=
    fun h => lockstep_map h fun _ _ => .condition
  cases call with
  | nextName => exact lockstep_map Command.lockstep_nextName fun _ _ _ => .name
  | parameter column value type =>
    exact lockstep_map (Command.lockstep_parameter column type fun h =>
      given h value List.mem_cons_self) fun _ _ => .parameter
  | literal column value type =>
    exact lockstep_map (Command.lockstep_literal column type fun h =>
      given h value List.mem_cons_self) fun _ _ => .parameter
  | expression column expr =>
    exact lockstep_map (Command.lockstep_expression column expr) fun _ _ => .parameter
  | compare column operator values type => exact condition (Condition.lockstep_compare given)
  | compareColumn column operator otherColumn otherTable =>
    exact condition Condition.lockstep_compareColumn
  | compareExpression column operator expr =>
    exact condition Condition.lockstep_compareExpression
  | inValues column values type negated =>
    exact condition (Condition.lockstep_inValues fun h => given h values List.mem_cons_self)
  | inDelimited column text type separator negated =>
    exact condition (Condition.lockstep_inDelimited own)
  | _ => cases alone

/-- Counterparts of a call come to counterparts of an answer. -/
theorem lockstep_run (operators : OperatorTable) (h : Counterpart free c c' call call') :
    Lockstep (Answer.Counterpart free c c') (call.run operators c) (call'.run operators c') := by
  have condition : ∀ {x y : Except Error Condition}, InStep (Condition.Counterpart free c c') x y →
      Lockstep (Answer.Counterpart free c c') (Answer.condition <$> (liftM x : Build Condition))
        (Answer.condition <$> (liftM y : Build Condition)) :=
    fun h => lockstep_map (lockstep_lift h) fun _ _ => .condition
  cases h with
  | same alone own => exact lockstep_same alone own
  | inParameters each => exact condition (Condition.inParameters_inStep each)
  | @join connective conditions conditions' onSelf each =>
    exact condition (Condition.join_inStep onSelf each)
  | negate h => exact condition (Condition.negate_inStep h)

end Call
end Criteria
