import Criteria.Proofs.Condition.Comparands
import Criteria.Proofs.Operator.BuiltIn
import Criteria.Proofs.Session

/-!
# Conditions that calls have built

Conditions that are built on one command with the built-in operators, call by call, and what they
are made of: comparisons with as many values as their operators take, memberships in parameters of
the command, and groups and negations of such conditions.
-/

namespace Criteria

/-- A parameter that stands in a statement as it should: bound under a name of the command, or
written into it as a text of a kind, if it has a text at all. -/
def Command.Shows (c : Command) (kind : String → Prop) (p : Parameter) : Prop :=
  (∃ n, c.Names n p) ∨ p.bindable = false ∧ ∀ text, p.value.toText = .ok text → kind text

theorem isIdentifier_parameterName {c : Command} (stem : Text.isIdentifier c.stem = true)
    (n : Nat) : Text.isIdentifier (c.parameterName n) = true :=
  Text.isIdentifier_append stem fun _ ha =>
    Text.isIdentifierRest_of_isDigit (Template.isDigit_of_mem_repr ha)

namespace Condition

/-- A condition over built-in operators, as the table has them, and over parameters of a kind. -/
inductive OfBuiltIns (operators : OperatorTable) (own : Parameter → Prop) : Condition → Prop
  | comparison {c : Command} {operator : String} {op : Operator} {first : Parameter}
      {second : Option Parameter} {values : List Parameter}
      (known : OperatorTable.builtIn.find? operator = some op)
      (kept : operators.find? operator = some op)
      (taken : comparands op first second = .ok values)
      (count : (values.length : Int) = op.arity)
      (owned : ∀ p ∈ first :: second.toList, own p) :
      OfBuiltIns operators own (.comparison c operator first second)
  | membership {c : Command} {column : Option String} {items : List Parameter} {negated : Bool}
      (columns : ∀ p ∈ items, some p.column = column) (owned : ∀ p ∈ items, own p) :
      OfBuiltIns operators own (.membership c column items negated)
  | group {c : Command} {connective : Connective} {conditions : List Condition}
      (each : ∀ d ∈ conditions, OfBuiltIns operators own d) :
      OfBuiltIns operators own (.group c connective conditions)
  | negation {c : Command} {condition : Condition} (inner : OfBuiltIns operators own condition) :
      OfBuiltIns operators own (.negation c condition)

mutual

/-- The parameters that a condition holds, itself or through other conditions. -/
def leaves : Condition → List Parameter
  | comparison _ _ first second => first :: second.toList
  | membership _ _ items _ => items
  | group _ _ conditions => leavesOfAll conditions
  | negation _ condition => leaves condition

def leavesOfAll : List Condition → List Parameter
  | [] => []
  | d :: rest => leaves d ++ leavesOfAll rest

end

theorem mem_leavesOfAll {conditions : List Condition} {p : Parameter} :
    p ∈ leavesOfAll conditions ↔ ∃ d ∈ conditions, p ∈ d.leaves := by
  induction conditions with
  | nil => simp [leavesOfAll]
  | cons d conditions ih => simp [leavesOfAll, ih]

/-- The texts of the parameters that are written into a statement. -/
def inlined (parameters : List Parameter) : List String :=
  (parameters.filter (!·.bindable)).filterMap (·.value.toText.toOption)

mutual

/-- The names of columns and the inlined texts in a condition. -/
def written : Condition → List String
  | comparison _ _ first second => first.column :: inlined (first :: second.toList)
  | membership _ column items _ => column.toList ++ inlined items
  | group _ _ conditions => writtenOfAll conditions
  | negation _ condition => written condition

def writtenOfAll : List Condition → List String
  | [] => []
  | d :: rest => written d ++ writtenOfAll rest

end

theorem mem_writtenOfAll {conditions : List Condition} {t : String} :
    t ∈ writtenOfAll conditions ↔ ∃ d ∈ conditions, t ∈ d.written := by
  induction conditions with
  | nil => simp [writtenOfAll]
  | cons d conditions ih => simp [writtenOfAll, ih]

theorem mem_inlined {parameters : List Parameter} {p : Parameter} (hp : p ∈ parameters)
    (inlined : p.bindable = false) {text : String} (written : p.value.toText = .ok text) :
    text ∈ Condition.inlined parameters :=
  List.mem_filterMap.mpr
    ⟨p, List.mem_filter.mpr ⟨hp, by simp [inlined]⟩, congrArg Except.toOption written⟩

theorem shows_of_owned {c : Command} {own : Parameter → Prop} {kind : String → Prop}
    (names : ∀ p, own p → p.bindable = true → ∃ n, c.Names n p) {parameters : List Parameter}
    (owned : ∀ p ∈ parameters, own p) (clean : ∀ t ∈ inlined parameters, kind t) :
    ∀ p ∈ parameters, c.Shows kind p := by
  intro p hp
  cases bindable : p.bindable with
  | true => exact .inl (names p (owned p hp) bindable)
  | false => exact .inr ⟨bindable, fun text written => clean text (mem_inlined hp bindable written)⟩

theorem mem_of_comparands {op : Operator} {first : Parameter} {second : Option Parameter}
    {values : List Parameter} (taken : comparands op first second = .ok values) {p : Parameter}
    (hp : p ∈ values) : p ∈ first :: second.toList := by
  have given : some p ∈ compared op first second := by
    rw [comparands_eq_ok_iff.mp taken]
    exact List.mem_map_of_mem hp
  rcases eq_of_mem_compared given with same | same
  · obtain rfl := Option.some.inj same
    exact List.mem_cons_self
  · exact List.mem_cons_of_mem first (Option.mem_toList.mpr same.symm)

/-- As many parameters as an operator asks for are as many as it compares with. -/
theorem comparands_of_count {op : Operator} {first : Parameter} {second : Option Parameter}
    (arity : op.arity = 0 ∨ op.arity = 1 ∨ op.arity = 2)
    (count : ((if op.arity = 0 then 0 else 1) + (if second.isSome then 1 else 0) : Int) =
      op.arity) :
    ∃ values, comparands op first second = .ok values ∧ (values.length : Int) = op.arity := by
  simp only [comparands_eq_ok_iff]
  rcases arity with arity | arity | arity
  · exact ⟨[], compared_of_zero arity, arity.symm⟩
  · exact ⟨[first], compared_of_one arity, arity.symm⟩
  · cases second with
    | none => simp [arity] at count
    | some second => exact ⟨[first, second], compared_of_two arity, arity.symm⟩

theorem length_le_two {operator : String} {op : Operator} {values : List Parameter}
    (known : OperatorTable.builtIn.find? operator = some op)
    (count : (values.length : Int) = op.arity) : values.length ≤ 2 := by
  have arity : op.arity = 0 ∨ op.arity = 1 ∨ op.arity = 2 :=
    (OperatorTable.isWorded_of_find? known).2.1
  omega

/-- A comparison with a built-in operator reads as one of the words of the operator says. -/
theorem comparisonText_builtIn {operators : OperatorTable} {operator : String} {op : Operator}
    {first : Parameter} {second : Option Parameter} {values : List Parameter}
    (known : OperatorTable.builtIn.find? operator = some op)
    (kept : operators.find? operator = some op) (taken : comparands op first second = .ok values)
    (count : (values.length : Int) = op.arity) (shown : Parameter → Except Error String) :
    ∃ word ∈ OperatorTable.words op.arity,
      comparisonText operators shown operator first second =
        (fun texts => "(" ++ (first.column ++ OperatorTable.behindColumn word texts) ++ ")") <$>
          values.mapM shown := by
  obtain ⟨word, hword, render⟩ := OperatorTable.render_builtIn known
  refine ⟨word, hword, ?_⟩
  rw [comparisonText_of_comparands (OperatorTable.get_eq_ok_iff.mpr kept) taken]
  cases written : values.mapM shown with
  | error e => rfl
  | ok texts =>
    have rendered := render first.column texts (by rw [length_of_mapM_ok written]; exact count)
    rw [ok_bind, rendered]
    rfl

/-- A condition over built-in operators has a text, unless a number that is written into it has too
many digits. -/
theorem text_error_of_ofBuiltIns {operators : OperatorTable} {own : Parameter → Prop}
    {d : Condition} (builtIns : d.OfBuiltIns operators own) {e : Error}
    (failed : d.text operators = .error e) :
    e = .longNumber ∧ ∃ p ∈ d.leaves, ¬ p.IsWritable := by
  have of_mapM : ∀ {parameters : List Parameter}, parameters.mapM Parameter.text = .error e →
      e = .longNumber ∧ ∃ p ∈ parameters, ¬ p.IsWritable := by
    intro parameters failed
    obtain ⟨p, hp, failed⟩ := mapM_error failed
    obtain ⟨long, unwritable⟩ := Parameter.text_error failed
    exact ⟨long, p, hp, unwritable⟩
  induction builtIns with
  | comparison known kept taken count owned =>
    obtain ⟨word, -, written⟩ := comparisonText_builtIn known kept taken count Parameter.text
    obtain ⟨long, p, hp, unwritable⟩ := of_mapM (map_error (written.symm.trans failed))
    exact ⟨long, p, mem_of_comparands taken hp, unwritable⟩
  | membership columns owned => exact of_mapM (map_error failed)
  | @group c connective conditions each ih =>
    rw [text, textWith, textsWith_eq_mapM] at failed
    obtain ⟨d, hd, failed⟩ := mapM_error (map_error failed)
    obtain ⟨long, p, hp, unwritable⟩ := ih d hd failed
    exact ⟨long, p, mem_leavesOfAll.mpr ⟨d, hd, hp⟩, unwritable⟩
  | negation inner ih => exact ih (map_error failed)

theorem ofBuiltIns_ofParameters {table operators : OperatorTable} {own : Parameter → Prop}
    {c : Command} {name : String} {first : Parameter} {second : Option Parameter} {d : Condition}
    (before : table.IsBuiltIn name) (now : operators.IsBuiltIn name)
    (made : ofParameters table c name first second = .ok d)
    (owned : ∀ p ∈ d.held, own p) : d.OfBuiltIns operators own ∧ d.command = c := by
  obtain ⟨op, known, kept⟩ := before
  obtain ⟨op', known', kept'⟩ := now
  obtain rfl : op = op' := Option.some.inj (known.symm.trans known')
  obtain ⟨found, hfound, count, rfl⟩ := ofParameters_ok made
  obtain rfl : op = found :=
    Option.some.inj (kept.symm.trans (OperatorTable.get_eq_ok_iff.mp hfound))
  rw [OperatorTable.name_of_find? known] at *
  obtain ⟨values, taken, length⟩ :=
    comparands_of_count (OperatorTable.isWorded_of_find? known).2.1 count
  exact ⟨.comparison known kept' taken length owned, rfl⟩

end Condition

/-- The call makes a condition that is no group and no negation. Its operator is built in, both
then and now, and parameters that it is given are those of the command. -/
def Call.MakesLeaf (s : Session) (c : Command) (before now : OperatorTable) : Call → Prop
  | compare _ operator _ _ => before.IsBuiltIn operator ∧ now.IsBuiltIn operator
  | compareColumn _ operator _ _ => before.IsBuiltIn operator ∧ now.IsBuiltIn operator
  | compareExpression _ operator _ => before.IsBuiltIn operator ∧ now.IsBuiltIn operator
  | inValues .. => True
  | inDelimited .. => True
  | inParameters _ items _ => ∀ p ∈ items.getD [], s.Issued c p
  | _ => False

/-- What has been built on a command in the course of a session, with the built-in operators as the
table has them. -/
inductive Session.Built (s : Session) (operators : OperatorTable) (c : Command) : Condition → Prop
  | leaf {e : Event} {d : Condition} (called : e ∈ s.events) (own : e.command = c)
      (leaf : e.call.MakesLeaf s c e.operators operators)
      (made : e.outcome = .ok (.condition d)) : Built s operators c d
  | join {connective : Connective} {conditions : List Condition} {given : Option Command}
      {d : Condition} (each : ∀ e ∈ conditions, Built s operators c e)
      (made : Condition.join connective conditions given = .ok d) (own : d.command = c) :
      Built s operators c d
  | negate {inner d : Condition} (built : Built s operators c inner)
      (made : Condition.negate (some inner) = .ok d) : Built s operators c d

namespace Session

/-- A condition that a call has made holds what the call has created. -/
theorem issued_of_held {s : Session} {e : Event} {d : Condition} (called : e ∈ s.events)
    (creates : e.call.creates = true) (made : e.outcome = .ok (.condition d)) :
    ∀ p ∈ d.held, s.Issued e.command p := by
  intro p hp
  exact ⟨e, called, rfl, by simpa [Event.made, made, creates, Answer.held] using hp⟩

theorem ofBuiltIns_leaf {s : Session} (h : s.Consistent) {operators : OperatorTable} {e : Event}
    {d : Condition} (called : e ∈ s.events)
    (leaf : e.call.MakesLeaf s e.command e.operators operators)
    (made : e.outcome = .ok (.condition d)) :
    d.OfBuiltIns operators (s.Issued e.command) ∧ d.command = e.command := by
  have ran := h.ran e called
  have held := issued_of_held (d := d) called
  rw [made] at ran
  obtain ⟨c, call, table, before, outcome, after⟩ := e
  cases call with
  | compare column operator values type =>
    have hd := Answer.condition_ok ran
    obtain ⟨op, first, second, found, -, hd, -⟩ := Condition.compare_ok hd
    rw [OperatorTable.name_of_get leaf.1 found] at hd
    exact Condition.ofBuiltIns_ofParameters leaf.1 leaf.2 hd (held rfl made)
  | compareColumn column operator otherColumn otherTable =>
    have hd := Answer.condition_ok ran
    obtain ⟨expr, hd⟩ := Condition.compareColumn_ok hd
    obtain ⟨op, first, found, -, hd, -⟩ := Condition.compareExpression_ok hd
    rw [OperatorTable.name_of_get leaf.1 found] at hd
    exact Condition.ofBuiltIns_ofParameters leaf.1 leaf.2 hd (held rfl made)
  | compareExpression column operator expr =>
    have hd := Answer.condition_ok ran
    obtain ⟨op, first, found, -, hd, -⟩ := Condition.compareExpression_ok hd
    rw [OperatorTable.name_of_get leaf.1 found] at hd
    exact Condition.ofBuiltIns_ofParameters leaf.1 leaf.2 hd (held rfl made)
  | inValues column values type negated =>
    have hd := Answer.condition_ok ran
    obtain ⟨list, -, hd⟩ := Condition.inValues_ok hd
    obtain ⟨items, rfl, columns, -⟩ := Condition.inList_ok hd
    exact ⟨.membership columns (held rfl made), rfl⟩
  | inDelimited column text type separator negated =>
    have hd := Answer.condition_ok ran
    obtain ⟨list, -, hd⟩ := Condition.inDelimited_ok hd
    obtain ⟨items, rfl, columns, -⟩ := Condition.inList_ok hd
    exact ⟨.membership columns (held rfl made), rfl⟩
  | inParameters column items negated =>
    have hd := Answer.condition_ok ran
    obtain ⟨list, own, rfl, rfl, columns⟩ := Condition.inParameters_ok (Build.lift_ok_iff.mp hd).1
    exact ⟨.membership (fun p hp => congrArg some (columns p hp)) leaf, rfl⟩
  | _ => exact leaf.elim

/-- What has been built on a command is a condition of the command over its own parameters. -/
theorem ofBuiltIns_of_built {s : Session} (h : s.Consistent) {operators : OperatorTable}
    {c : Command} {d : Condition} (built : s.Built operators c d) :
    d.OfBuiltIns operators (s.Issued c) ∧ d.command = c := by
  induction built with
  | leaf called own leaf made =>
    subst own
    exact ofBuiltIns_leaf h called leaf made
  | join each made own ih =>
    obtain ⟨shape, -⟩ := Condition.join_ok made
    rw [shape]
    exact ⟨.group fun e he => (ih e he).1, own⟩
  | negate built made ih =>
    obtain ⟨inner, same, shape⟩ := Condition.negate_ok made
    cases same
    rw [shape]
    exact ⟨.negation ih.1, ih.2⟩

end Session

namespace Sample

/-! A session that builds one condition of several kinds. -/

def command : Command := ⟨0, ⟨0, .postgres⟩, "p"⟩

def between : Call := .compare (some "age") "BETWEEN" [.int 18, .int 65] none

def among : Call := .inValues (some "id") (.list [.int 7]) none false

def same : Call := .compareColumn (some "a") "EQUAL" (some "b") (some "t")

def actions : List Action :=
  [.openCommand command.backend command.stem, .call 0 between, .call 0 among, .call 0 same]

def bound (column : String) (value : Value) (number : Nat) : Parameter :=
  ⟨column, .integer, value, true, command.parameterName number,
    command.dialect.placeholder (command.parameterName number), number⟩

def leaves : List Condition :=
  [.comparison command "BETWEEN" (bound "age" (.int 18) 0) (some (bound "age" (.int 65) 1)),
    .membership command (some "id") [bound "id" (.int 7) 2] false,
    .comparison command "EQUAL" ⟨"a", .string, .text "t.b", false, "", "", 3⟩ none]

/-- Either the first leaf, or none of the others. -/
def condition : Condition :=
  .group command .or [leaves[0], .negation command (.group command .or [leaves[1], leaves[2]])]

theorem built_leaf (call : Call) {d : Condition}
    (called : ∃ e ∈ (Session.after actions).events, e.command = command ∧ e.call = call ∧
      e.operators = .builtIn ∧ e.outcome = .ok (.condition d))
    (leaf : call.MakesLeaf (Session.after actions) command .builtIn .builtIn) :
    (Session.after actions).Built .builtIn command d := by
  obtain ⟨e, he, own, rfl, operators, made⟩ := called
  exact .leaf he own (operators ▸ leaf) made

theorem built_leaves : ∀ d ∈ leaves, (Session.after actions).Built .builtIn command d := by
  have names : ∀ name ∈ ["BETWEEN", "EQUAL"], name ∈ OperatorTable.builtIn.names := by
    decide +kernel
  have known : ∀ name ∈ ["BETWEEN", "EQUAL"], OperatorTable.builtIn.IsBuiltIn name :=
    fun name hname => OperatorTable.isBuiltIn_of_mem (names name hname)
  rw [leaves, List.forall_mem_cons, List.forall_mem_cons, List.forall_mem_singleton]
  refine ⟨?_, ?_, ?_⟩
  · refine built_leaf between ⟨_, List.mem_cons_self, rfl, rfl, rfl, rfl⟩ ?_
    exact ⟨known "BETWEEN" (by simp), known "BETWEEN" (by simp)⟩
  · refine built_leaf among ⟨_, .tail _ List.mem_cons_self, rfl, rfl, rfl, rfl⟩ ?_
    exact trivial
  · refine built_leaf same ⟨_, .tail _ (.tail _ List.mem_cons_self), rfl, rfl, rfl, rfl⟩ ?_
    exact ⟨known "EQUAL" (by simp), known "EQUAL" (by simp)⟩

theorem built_or {d e : Condition} (hd : (Session.after actions).Built .builtIn command d)
    (he : (Session.after actions).Built .builtIn command e)
    (made : Condition.join .or [d, e] none = .ok (.group command .or [d, e])) :
    (Session.after actions).Built .builtIn command (.group command .or [d, e]) :=
  .join (List.forall_mem_cons.mpr ⟨hd, List.forall_mem_singleton.mpr he⟩) made rfl

theorem built_condition : (Session.after actions).Built .builtIn command condition := by
  have among := built_or (built_leaves leaves[1] (by simp [leaves]))
    (built_leaves leaves[2] (by simp [leaves])) rfl
  exact built_or (built_leaves leaves[0] (by simp [leaves])) (among.negate rfl) rfl

end Sample
end Criteria
