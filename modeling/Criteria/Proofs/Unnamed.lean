import Criteria.Proofs.Membership

/-!
# Calls without a name

What comes of calls that are given a blank name for a column, or none. The name is looked at last,
when something is bound or written for it. A call that gets so far is refused there, and a call that
does not has been refused before, unless it had nothing to bind at all.
-/

namespace Criteria

namespace Build

variable {α β : Type} {x : Build α} {s : Supply}

/-- The call fails with an error of construction, or of a kind that belongs to these, and leaves the
supply as it is. -/
def FailsInConstruction (x : Build α) (s : Supply) : Prop :=
  ∃ e kind, FailsAs x s e kind ∧ .construction ∈ kind.lineage

theorem failsInConstruction_throw {e : Error} (kind : ReportKind)
    (reported : ∃ r, e.report? = some r ∧ r.kind = kind) (narrow : .construction ∈ kind.lineage) :
    FailsInConstruction (throw e : Build α) s :=
  ⟨e, kind, ⟨rfl, reported⟩, narrow⟩

/-- The call fails in construction, or instead of that on a long number in its message, and leaves
the supply as it is. -/
def Refused (long : Prop) (x : Build α) (s : Supply) : Prop :=
  FailsInConstruction x s ∨ long ∧ x.run.run s = (.error .longNumber, s)

theorem refused_throw_showing {n : Int} {e : Error} (kind : ReportKind)
    (reported : ∃ r, e.report? = some r ∧ r.kind = kind) (narrow : .construction ∈ kind.lineage) :
    Refused (¬ Numeral.Short n.natAbs) (throw (.showing n e) : Build α) s := by
  rw [Error.showing]
  by_cases short : Numeral.Short n.natAbs
  · rw [if_pos short]
    exact .inl (failsInConstruction_throw kind reported narrow)
  · rw [if_neg short]
    exact .inr ⟨short, rfl⟩

theorem FailsInConstruction.bind (h : FailsInConstruction x s) (f : α → Build β) :
    FailsInConstruction (x >>= f) s := by
  obtain ⟨e, kind, ⟨ran, reported⟩, narrow⟩ := h
  exact ⟨e, kind, ⟨by rw [run_bind, ran], reported⟩, narrow⟩

theorem FailsInConstruction.map (h : FailsInConstruction x s) (f : α → β) :
    FailsInConstruction (f <$> x) s := by
  rw [map_eq_pure_bind]
  exact h.bind _

theorem Refused.map {long : Prop} (h : Refused long x s) (f : α → β) :
    Refused long (f <$> x) s := by
  rcases h with failed | ⟨long, ran⟩
  · exact .inl (failed.map f)
  · refine .inr ⟨long, ?_⟩
    rw [map_eq_pure_bind, run_bind, ran]

end Build

open Build

namespace OperatorTable

/-- The operator is there, and its arity has too many digits to be shown. -/
def HasLongArity (table : OperatorTable) (operator : String) : Prop :=
  ∃ op, table.find? operator = some op ∧ ¬ Numeral.Short op.arity.natAbs

/-- The lookup of an operator that goes before the rest of a call may be what fails. -/
theorem refused_get_bind {table : OperatorTable} {operator : String} {β : Type}
    {f : Operator → Build β} {s : Supply}
    (next : ∀ op, Refused (¬ Numeral.Short op.arity.natAbs) (f op) s) :
    Refused (table.HasLongArity operator) (liftM (table.get operator) >>= f) s := by
  cases found : table.find? operator with
  | none =>
    have missing : table.get operator = .error (.unknownOperator operator table.sortedNames) := by
      rw [get, found]
    rw [missing]
    exact .inl ((failsInConstruction_throw .construction ⟨_, rfl, rfl⟩ (by decide)).bind f)
  | some op =>
    have known : table.get operator = .ok op := by rw [get, found]
    have ran : (liftM (table.get operator) >>= f).run.run s = (f op).run.run s := by
      rw [run_bind, run_lift, known]
    rcases next op with ⟨e, kind, ⟨failed, reported⟩, narrow⟩ | ⟨long, failed⟩
    · exact .inl ⟨e, kind, ⟨ran.trans failed, reported⟩, narrow⟩
    · exact .inr ⟨⟨op, found, long⟩, ran.trans failed⟩

end OperatorTable

namespace Command

variable {c : Command} {column : Option String} {s : Supply}

theorem failsInConstruction_requireColumn (unnamed : ¬IsNamed column) (s : Supply) :
    FailsInConstruction (requireColumn column) s :=
  ⟨_, .construction, ⟨run_requireColumn_unnamed unnamed s, _, rfl, rfl⟩, by decide⟩

theorem failsInConstruction_parameters (unnamed : ¬IsNamed column) {values : List Value}
    (nonempty : values ≠ []) (type : Option DataType) :
    FailsInConstruction (values.mapM fun v => c.parameter column v type) s :=
  ⟨_, .construction, ⟨run_parameters_unnamed unnamed c nonempty type s, _, rfl, rfl⟩, by decide⟩

theorem failsInConstruction_expression {expr : Option String}
    (blank : Text.isBlank (expr.getD "") = true) :
    FailsInConstruction (expression column expr) s := by
  by_cases named : IsNamed column
  · obtain ⟨name, rfl, visible⟩ := named
    rw [expression, requireColumn_of_visible visible, pure_bind]
    simp only [blank, if_true]
    exact failsInConstruction_throw .construction ⟨_, rfl, rfl⟩ (by decide)
  · exact (failsInConstruction_requireColumn named s).bind _

end Command

namespace Condition

open Text

variable {table : OperatorTable} {c : Command} {column : Option String} {operator : String}
  {s : Supply}

theorem refused_compare (unnamed : ¬Command.IsNamed column) (values : List Value)
    (type : Option DataType) :
    Refused (table.HasLongArity operator) (compare table c column operator values type) s := by
  refine OperatorTable.refused_get_bind fun op => ?_
  by_cases count : (values.length : Int) = op.arity
  · simp only [count, ne_eq, not_true_eq_false, if_false]
    by_cases bare : op.arity = 0
    · rw [if_pos bare]
      exact .inl (FailsInConstruction.bind
        ((Command.failsInConstruction_requireColumn unnamed s).bind _) _)
    · have nonempty : values ≠ [] := by
        rintro rfl
        exact bare count.symm
      rw [if_neg bare]
      exact .inl ((Command.failsInConstruction_parameters unnamed nonempty type).bind _)
  · simp only [count, ne_eq, not_false_eq_true, if_true]
    exact refused_throw_showing .arity ⟨_, rfl, rfl⟩ (by decide)

/-- A comparison with an expression fails if its expression cannot be made. -/
theorem refused_compareExpression {expr : Option String}
    (unmade : FailsInConstruction (Command.expression column expr) s) :
    Refused (table.HasLongArity operator) (compareExpression table c column operator expr) s := by
  refine OperatorTable.refused_get_bind fun op => ?_
  by_cases count : op.arity = 1
  · simp only [count, ne_eq, not_true_eq_false, if_false]
    exact .inl (unmade.bind _)
  · simp only [count, ne_eq, not_false_eq_true, if_true]
    exact refused_throw_showing .arity ⟨_, rfl, rfl⟩ (by decide)

theorem refused_compareColumn {otherColumn otherTable : Option String}
    (lacks : ¬Command.IsNamed column ∨ isBlank (otherColumn.getD "") = true ∧
      (otherColumn.getD "" = "" ∨ otherTable.getD "" = "")) :
    Refused (table.HasLongArity operator)
      (compareColumn table c column operator otherColumn otherTable) s := by
  unfold compareColumn
  by_cases missing : otherColumn.getD "" = ""
  · simp only [missing, if_true]
    exact .inl (failsInConstruction_throw .construction ⟨_, rfl, rfl⟩ (by decide))
  · simp only [missing, if_false]
    refine refused_compareExpression ?_
    rcases lacks with unnamed | ⟨blank, empty | alone⟩
    · exact (Command.failsInConstruction_requireColumn unnamed s).bind _
    · exact absurd empty missing
    · rw [if_pos alone]
      exact Command.failsInConstruction_expression blank

theorem failsInConstruction_inList (unnamed : ¬Command.IsNamed column) {values : List Value}
    (nonempty : values ≠ []) (type : Option DataType) (negated : Bool) :
    FailsInConstruction (inList c column values type negated) s :=
  (Command.failsInConstruction_parameters unnamed nonempty _).bind _

/-- A delimited text is read before the column is looked at, and may be what is refused. -/
theorem failsInConstruction_inDelimited (unnamed : ¬Command.IsNamed column) {text : Option String}
    (type : DataType) {separator : String} (negated : Bool)
    (found : separator = "" ∨ tokens separator (text.getD "") ≠ []) :
    FailsInConstruction (inDelimited c column text type separator negated) s := by
  by_cases filled : separator = ""
  · subst filled
    exact failsInConstruction_throw .construction ⟨_, rfl, rfl⟩ (by decide)
  cases first : type.firstUnread (tokens separator (text.getD "")) with
  | some token =>
    exact ⟨_, .conversion, ⟨run_inDelimited_unread filled first, _, rfl, rfl⟩, by decide⟩
  | none =>
    have nonempty := found.resolve_left filled
    exact ⟨_, .construction, ⟨run_inDelimited_unnamed filled first nonempty unnamed, _, rfl, rfl⟩,
      by decide⟩

end Condition

namespace Call

open Text Condition

/-- The column that a call binds or writes something for. Values for a membership are null or a
list here. -/
def column? : Call → Option (Option String)
  | parameter column .. => some column
  | literal column .. => some column
  | expression column _ => some column
  | compare column .. => some column
  | compareColumn column .. => some column
  | compareExpression column .. => some column
  | inValues column .null .. => some column
  | inValues column (.list _) .. => some column
  | inDelimited column .. => some column
  | _ => none

/-- A name that the call is given is blank or missing. The name of the other column stands alone
here, or it is empty. -/
inductive LacksName : Call → Prop
  | column {call : Call} {column : Option String} (asked : call.column? = some column)
      (unnamed : ¬Command.IsNamed column) : LacksName call
  | otherColumn (column : Option String) (operator : String)
      {otherColumn otherTable : Option String} (blank : isBlank (otherColumn.getD "") = true)
      (alone : otherColumn.getD "" = "" ∨ otherTable.getD "" = "") :
      LacksName (.compareColumn column operator otherColumn otherTable)

/-- The operator that the call compares with has an arity with too many digits to be shown. -/
def HasLongArity (operators : OperatorTable) : Call → Prop
  | compare _ operator .. => operators.HasLongArity operator
  | compareColumn _ operator .. => operators.HasLongArity operator
  | compareExpression _ operator _ => operators.HasLongArity operator
  | _ => False

/-- A membership is asked for of no values at all. -/
def FindsNothing : Call → Prop
  | inValues _ values .. => values = .null ∨ values = .list []
  | inDelimited _ text _ separator _ => separator ≠ "" ∧ tokens separator (text.getD "") = []
  | _ => False

variable {call : Call}

theorem refused_of_unnamed (operators : OperatorTable) (c : Command)
    {column : Option String} (asked : call.column? = some column)
    (unnamed : ¬Command.IsNamed column) (filled : ¬call.FindsNothing) (s : Supply) :
    Refused (call.HasLongArity operators) (call.run operators c) s := by
  have required := Command.failsInConstruction_requireColumn unnamed s
  cases call with
  | parameter =>
    cases asked
    exact .inl ((required.bind _).map _)
  | literal =>
    cases asked
    exact .inl ((required.bind _).map _)
  | expression =>
    cases asked
    exact .inl ((required.bind _).map _)
  | compare column operator values type =>
    cases asked
    exact (refused_compare unnamed values type).map _
  | compareColumn =>
    cases asked
    exact (refused_compareColumn (.inl unnamed)).map _
  | compareExpression =>
    cases asked
    exact (refused_compareExpression (required.bind _)).map _
  | inValues column values type negated =>
    cases values with
    | null => exact absurd (.inl rfl) filled
    | list items =>
      cases asked
      have nonempty : items ≠ [] := by
        rintro rfl
        exact filled (.inr rfl)
      exact .inl ((failsInConstruction_inList unnamed nonempty type negated).map _)
    | _ => cases asked
  | inDelimited column text type separator negated =>
    cases asked
    have found : separator = "" ∨ tokens separator (text.getD "") ≠ [] := by
      by_cases bare : separator = ""
      · exact .inl bare
      · exact .inr fun nothing => filled ⟨bare, nothing⟩
    exact .inl ((failsInConstruction_inDelimited unnamed type negated found).map _)
  | _ => cases asked

/-- Of no values an empty membership is made, whatever its column is called. -/
theorem run_of_findsNothing (operators : OperatorTable) (c : Command)
    (nothing : call.FindsNothing) (s : Supply) :
    ∃ column negated, (call.run operators c).run.run s =
      (.ok (.condition (.membership c column [] negated)), s) := by
  cases call with
  | inValues column values type negated =>
    obtain rfl | rfl := nothing
    · exact ⟨column, negated, rfl⟩
    · exact ⟨column, negated, rfl⟩
  | inDelimited column text type separator negated =>
    obtain ⟨bare, nothing⟩ := nothing
    refine ⟨column, negated, ?_⟩
    rw [run, map_eq_pure_bind, run_bind, run_inDelimited_bind bare, nothing]
    rfl
  | _ => exact nothing.elim

/-- A call that lacks a name is refused and takes nothing. Only a membership of no values is made,
and it is empty: there is no text that the name could stand in. The refusal is told in other words
where it is to show an arity that is too long. -/
theorem outcome_of_lacksName (operators : OperatorTable) (c : Command) (lacks : call.LacksName)
    (s : Supply) :
    (¬call.FindsNothing → Refused (call.HasLongArity operators) (call.run operators c) s) ∧
    (call.FindsNothing → ∃ d, (call.run operators c).run.run s = (.ok (.condition d), s) ∧
      d.text operators = .ok "" ∧ d.parameters operators = .ok (some [])) := by
  refine ⟨fun filled => ?refused, fun nothing => ?empty⟩
  case refused =>
    cases lacks with
    | column asked unnamed => exact refused_of_unnamed operators c asked unnamed filled s
    | otherColumn column operator blank alone =>
      exact (refused_compareColumn (.inr ⟨blank, alone⟩)).map _
  case empty =>
    obtain ⟨column, negated, made⟩ := run_of_findsNothing operators c nothing s
    exact ⟨_, made, rfl, rfl⟩

/-- One of two blank columns is looked at, and the other one is not. -/
theorem outcome_of_lacksName_blank :
    FailsInConstruction ((Call.inValues (some " ") (.list [.null]) none false).run .builtIn
      ⟨0, ⟨0, .sqlite⟩, "p"⟩) ⟨4, 0⟩ ∧
    ∃ d, ((Call.inDelimited (some " ") (some " , ") .string "," false).run .builtIn
        ⟨0, ⟨0, .sqlite⟩, "p"⟩).run.run ⟨4, 0⟩ = (.ok (.condition d), ⟨4, 0⟩) ∧
      d.text .builtIn = .ok "" ∧ d.parameters .builtIn = .ok (some []) := by
  have unnamed : ¬Command.IsNamed (some " ") := by
    rintro ⟨name, ⟨⟩, visible⟩
    exact absurd visible (by decide)
  have filled : ¬ (Call.inValues (some " ") (.list [.null]) none false).FindsNothing := by
    rintro (null | empty)
    · cases null
    · cases empty
  have refused := (outcome_of_lacksName .builtIn ⟨0, ⟨0, .sqlite⟩, "p"⟩ (.column rfl unnamed)
    ⟨4, 0⟩).1 filled
  refine ⟨refused.resolve_right fun long => long.1,
    (outcome_of_lacksName .builtIn _ (.column rfl unnamed) _).2 ⟨by decide, by decide⟩⟩

/-- The blank name of a column is in a membership of no values, and that of another column is
written behind the name of a table. -/
theorem not_failsInConstruction_of_blank :
    (∃ d, ((Call.inValues (some " ") (.list []) none false).run .builtIn
        ⟨0, ⟨0, .sqlite⟩, "p"⟩).run.run ⟨4, 0⟩ = (.ok (.condition d), ⟨4, 0⟩) ∧
      d = .membership ⟨0, ⟨0, .sqlite⟩, "p"⟩ (some " ") [] false) ∧
    ∃ d t, ((Call.compareColumn (some "a") "EQUAL" (some " ") (some "t")).run .builtIn
        ⟨0, ⟨0, .sqlite⟩, "p"⟩).run.run ⟨4, 0⟩ = (.ok (.condition d), t) ∧
      d.text .builtIn = .ok "(a = t. )" := by
  refine ⟨⟨_, rfl, rfl⟩, _, _, rfl, ?_⟩
  decide +kernel

end Call

end Criteria
