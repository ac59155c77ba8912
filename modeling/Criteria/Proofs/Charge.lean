import Criteria.Proofs.Call
import Criteria.Proofs.Operator.Registered

/-!
# What calls charge

How many names a call takes. A call checks all that it is given before it takes its first name, so
that it either fails and takes none, or succeeds and takes one for each value that it binds. Which
of the two happens does not depend on how far the command has come with its names.
-/

namespace Criteria

namespace Build

variable {α β : Type} {x : Build α} {f : α → Build β} {kind : α → Prop} {also : β → Prop}
  {m n : Nat}

/-- The call fails and takes no name, whichever is the next one. -/
def Refuses (x : Build α) : Prop :=
  ∀ s, ∃ e t, x.run.run s = (.error e, t) ∧ t.next = s.next

/-- The call takes so many names, whichever is the next one, and gives something of a kind. -/
def Charges (x : Build α) (n : Nat) (kind : α → Prop) : Prop :=
  ∀ s, ∃ a t, x.run.run s = (.ok a, t) ∧ t.next = s.next + n ∧ kind a

/-- The call is refused, or it takes so many names. -/
def Settled (x : Build α) (n : Nat) (kind : α → Prop) : Prop := Refuses x ∨ Charges x n kind

theorem refuses_throw (e : Error) : Refuses (throw e : Build α) := fun s => ⟨e, s, rfl, rfl⟩

theorem refuses_lift {y : Except Error α} {e : Error} (h : y = .error e) :
    Refuses (liftM y : Build α) :=
  fun s => ⟨e, s, by rw [run_lift, h], rfl⟩

theorem refuses_bind (h : Refuses x) (f : α → Build β) : Refuses (x >>= f) := by
  intro s
  obtain ⟨e, t, hx, kept⟩ := h s
  exact ⟨e, t, by rw [run_bind, hx], kept⟩

theorem charges_pure {a : α} (h : kind a) : Charges (pure a : Build α) 0 kind :=
  fun s => ⟨a, s, rfl, rfl, h⟩

theorem charges_lift {y : Except Error α} {a : α} (hy : y = .ok a) (h : kind a) :
    Charges (liftM y : Build α) 0 kind :=
  fun s => ⟨a, s, by rw [run_lift, hy], rfl, h⟩

theorem charges_bind (first : Charges x m kind)
    (next : ∀ a, kind a → Charges (f a) n also) : Charges (x >>= f) (m + n) also := by
  intro s
  obtain ⟨a, t, hx, leftX, ha⟩ := first s
  obtain ⟨b, u, hf, leftF, hb⟩ := next a ha t
  exact ⟨b, u, bind_ok_iff.mpr ⟨a, t, hx, hf⟩, by omega, hb⟩

/-- What is known of everything that the call gives is known of what it gives here. -/
theorem charges_of_ok {given : α → Prop} (h : Charges x n kind)
    (known : ∀ s a t, x.run.run s = (.ok a, t) → given a) : Charges x n given := by
  intro s
  obtain ⟨a, t, hx, left, -⟩ := h s
  exact ⟨a, t, hx, left, known s a t hx⟩

theorem charges_mapM {items : List α} (each : ∀ a ∈ items, Charges (f a) 1 also) :
    Charges (items.mapM f) items.length fun _ => True := by
  induction items with
  | nil => exact charges_pure trivial
  | cons a items ih =>
    rw [List.mapM_cons, List.length_cons, Nat.add_comm]
    refine charges_bind (each a List.mem_cons_self) fun b _ => ?_
    exact charges_bind (n := 0) (ih fun c hc => each c (List.mem_cons_of_mem a hc)) fun _ _ =>
      charges_pure trivial

theorem settled_throw (e : Error) : Settled (throw e : Build α) n kind := .inl (refuses_throw e)

theorem settled_lift (y : Except Error α) : Settled (liftM y : Build α) 0 fun _ => True := by
  cases hy : y with
  | error e => exact .inl (refuses_lift rfl)
  | ok a => exact .inr (charges_lift rfl trivial)

/-- A check that takes no name comes before what does. -/
theorem settled_lift_bind {y : Except Error α} (next : ∀ a, y = .ok a → Settled (f a) n also) :
    Settled ((liftM y : Build α) >>= f) n also := by
  cases hy : y with
  | error e => exact .inl (refuses_bind (refuses_lift rfl) f)
  | ok a => exact next a hy

theorem settled_bind (first : Settled x m kind)
    (next : ∀ a, kind a → Charges (f a) n also) : Settled (x >>= f) (m + n) also :=
  first.imp (refuses_bind · f) (charges_bind · next)

theorem settled_map (h : Settled x n kind) (f : α → β) : Settled (f <$> x) n fun _ => True := by
  rw [map_eq_pure_bind]
  exact settled_bind h fun _ _ => charges_pure trivial

theorem next_of_settled_ok (h : Settled x n kind) {s t : Supply} {a : α}
    (ran : x.run.run s = (.ok a, t)) : t.next = s.next + n := by
  rcases h with refused | charged
  · obtain ⟨_, _, failed, -⟩ := refused s
    rw [ran] at failed
    cases failed
  · obtain ⟨_, u, succeeded, left, -⟩ := charged s
    rw [ran] at succeeded
    rwa [(Prod.mk.inj succeeded).2]

theorem next_of_settled_error (h : Settled x n kind) {s t : Supply} {e : Error}
    (ran : x.run.run s = (.error e, t)) : t.next = s.next := by
  rcases h with refused | charged
  · obtain ⟨_, u, failed, kept⟩ := refused s
    rw [ran] at failed
    rwa [(Prod.mk.inj failed).2]
  · obtain ⟨_, _, succeeded, -⟩ := charged s
    rw [ran] at succeeded
    cases succeeded

/-- Only how many names are taken already matters to how many are afterwards. -/
theorem next_eq_of_settled (h : Settled x n kind) {s t : Supply} (same : s.next = t.next) :
    (x.run.run s).2.next = (x.run.run t).2.next := by
  rcases h with refused | charged
  · obtain ⟨_, _, failedS, keptS⟩ := refused s
    obtain ⟨_, _, failedT, keptT⟩ := refused t
    rw [failedS, failedT]
    exact keptS.trans (same.trans keptT.symm)
  · obtain ⟨_, _, succeededS, leftS, -⟩ := charged s
    obtain ⟨_, _, succeededT, leftT, -⟩ := charged t
    rw [succeededS, succeededT]
    exact leftS.trans (same ▸ leftT.symm)

end Build

open Build

namespace Command

/-- The column is given, and it is not blank. -/
def IsNamed (column : Option String) : Prop :=
  ∃ name, column = some name ∧ Text.isBlank name = false

theorem requireColumn_of_visible {name : String} (visible : Text.isBlank name = false) :
    requireColumn (some name) = pure name := by
  simp [requireColumn, visible]

theorem run_requireColumn_unnamed {column : Option String} (unnamed : ¬IsNamed column)
    (s : Supply) : (requireColumn column).run.run s = (.error (.blankColumn column), s) := by
  cases column with
  | none => rfl
  | some name =>
    by_cases blank : Text.isBlank name = true
    · simp only [requireColumn, blank, if_true]
      rfl
    · exact absurd ⟨name, rfl, by simpa using blank⟩ unnamed

theorem refuses_requireColumn {column : Option String} (unnamed : ¬IsNamed column) :
    Refuses (requireColumn column) :=
  fun s => ⟨_, s, run_requireColumn_unnamed unnamed s, rfl⟩

theorem settled_nextName (c : Command) : Settled c.nextName 1 fun _ => True :=
  .inr fun s => ⟨_, _, run_nextName c s, rfl, trivial⟩

theorem charges_parameter {column : Option String} (named : IsNamed column) (c : Command)
    (value : Value) (type : Option DataType) :
    Charges (c.parameter column value type) 1 fun _ => True := by
  obtain ⟨name, rfl, visible⟩ := named
  exact fun s => ⟨_, _, run_parameter visible c value type s, rfl, trivial⟩

theorem settled_parameter (c : Command) (column : Option String) (value : Value)
    (type : Option DataType) : Settled (c.parameter column value type) 1 fun _ => True := by
  by_cases named : IsNamed column
  · exact .inr (charges_parameter named c value type)
  · exact .inl (refuses_bind (refuses_requireColumn named) _)

theorem charges_literal {column : Option String} (named : IsNamed column) (value : Value)
    (type : Option DataType) : Charges (literal column value type) 0 fun _ => True := by
  obtain ⟨name, rfl, visible⟩ := named
  exact fun s => ⟨_, _, run_literal visible value type s, rfl, trivial⟩

theorem settled_literal (column : Option String) (value : Value) (type : Option DataType) :
    Settled (literal column value type) 0 fun _ => True := by
  by_cases named : IsNamed column
  · exact .inr (charges_literal named value type)
  · exact .inl (refuses_bind (refuses_requireColumn named) _)

theorem settled_expression (column expr : Option String) :
    Settled (expression column expr) 0 fun _ => True := by
  by_cases named : IsNamed column
  · obtain ⟨name, rfl, visible⟩ := named
    rw [expression, requireColumn_of_visible visible, pure_bind]
    by_cases blank : Text.isBlank (expr.getD "") = true
    · simp only [blank, if_true]
      exact settled_throw _
    · simp only [blank]
      exact settled_literal _ _ _
  · exact .inl (refuses_bind (refuses_requireColumn named) _)

/-- Parameters for a list of values fail with the first of them, before anything is taken. -/
theorem run_parameters_unnamed {column : Option String} (unnamed : ¬IsNamed column) (c : Command)
    {values : List Value} (nonempty : values ≠ []) (type : Option DataType) (s : Supply) :
    (values.mapM fun v => c.parameter column v type).run.run s =
      (.error (.blankColumn column), s) := by
  obtain ⟨v, values, rfl⟩ := List.exists_cons_of_ne_nil nonempty
  rw [List.mapM_cons, run_bind, parameter, run_bind, run_requireColumn_unnamed unnamed]

theorem refuses_parameters {column : Option String} (unnamed : ¬IsNamed column) (c : Command)
    {values : List Value} (nonempty : values ≠ []) (type : Option DataType) :
    Refuses (values.mapM fun v => c.parameter column v type) :=
  fun s => ⟨_, s, run_parameters_unnamed unnamed c nonempty type s, rfl⟩

theorem charges_parameters {column : Option String} {values : List Value}
    (named : values ≠ [] → IsNamed column) (c : Command) (type : Option DataType) :
    Charges (values.mapM fun v => c.parameter column v type) values.length fun items =>
      (∀ p ∈ items, some p.column = column) ∧ items.length = values.length := by
  have each : ∀ v ∈ values, Charges (c.parameter column v type) 1 fun _ => True :=
    fun v hv => charges_parameter (named (List.ne_nil_of_mem hv)) c v type
  refine charges_of_ok (charges_mapM each) fun s items t h => ?_
  obtain ⟨columns, made, -, -⟩ := mapM_parameter_ok h
  exact ⟨columns, by rw [← made, List.length_map]⟩

theorem settled_parameters (c : Command) (column : Option String) (values : List Value)
    (type : Option DataType) :
    Settled (values.mapM fun v => c.parameter column v type) values.length fun items =>
      (∀ p ∈ items, some p.column = column) ∧ items.length = values.length := by
  by_cases named : values ≠ [] → IsNamed column
  · exact .inr (charges_parameters named c type)
  · obtain ⟨nonempty, unnamed⟩ := Classical.not_imp.mp named
    exact .inl (refuses_parameters unnamed c nonempty type)

end Command

namespace Condition

variable {table : OperatorTable} {c : Command} {column : Option String} {negated : Bool}

/-- A comparison of as many parameters as its operator takes is made. -/
theorem charges_ofParameters {op : Operator} (found : table.get op.name = .ok op)
    (first : Parameter) (second : Option Parameter)
    (count : ((if op.arity = 0 then 0 else 1) + (if second.isSome then 1 else 0) : Int) =
      op.arity) :
    Charges (liftM (ofParameters table c op.name first second)) 0 fun _ => True := by
  have made : ofParameters table c op.name first second =
      .ok (comparison c op.name first second) := by
    rw [ofParameters, found, ok_bind]
    simp only [count, ne_eq, not_true_eq_false, if_false]
    rfl
  exact charges_lift made trivial

theorem charges_compare {operator : String} {op : Operator} (found : table.get operator = .ok op)
    (again : table.get op.name = .ok op) {values : List Value}
    (count : (values.length : Int) = op.arity) (few : op.arity ≤ 2)
    (named : Command.IsNamed column) (type : Option DataType) :
    Charges (compare table c column operator values type) values.length fun _ => True := by
  rw [compare, found]
  change Charges (ite _ _ _) _ _
  simp only [count, ne_eq, not_true_eq_false, if_false]
  by_cases bare : op.arity = 0
  · have noValues : values.length = 0 := by omega
    rw [if_pos bare, noValues]
    exact charges_bind (Command.charges_literal named .null type) fun first _ =>
      charges_ofParameters again first none (by simp [bare])
  · rw [if_neg bare]
    refine charges_bind (n := 0) (Command.charges_parameters (fun _ => named) c type) ?_
    rintro items ⟨-, length⟩
    match items, length with
    | [], length => exact absurd (by rw [← count, ← length]; rfl) bare
    | [first], length =>
      have arity : op.arity = 1 := by rw [← count, ← length]; rfl
      exact charges_ofParameters again first none (by simp [arity])
    | [first, second], length =>
      have arity : op.arity = 2 := by rw [← count, ← length]; rfl
      exact charges_ofParameters again first (some second) (by simp [arity])
    | _ :: _ :: _ :: _, length =>
      rw [List.length_cons, List.length_cons, List.length_cons] at length
      omega

/-- Without a column there is no comparison, and no name is taken for one. -/
theorem refuses_compare {operator : String} {op : Operator} (found : table.get operator = .ok op)
    {values : List Value} (count : (values.length : Int) = op.arity)
    (unnamed : ¬Command.IsNamed column) (type : Option DataType) :
    Refuses (compare table c column operator values type) := by
  rw [compare, found]
  change Refuses (ite _ _ _)
  simp only [count, ne_eq, not_true_eq_false, if_false]
  by_cases bare : op.arity = 0
  · rw [if_pos bare]
    exact refuses_bind (refuses_bind (Command.refuses_requireColumn unnamed) _) _
  · have nonempty : values ≠ [] := by
      rintro rfl
      exact bare count.symm
    rw [if_neg bare]
    exact refuses_bind (Command.refuses_parameters unnamed c nonempty type) _

theorem settled_compare (filed : table.IsFiled) (few : table.TakesUpToTwo) (operator : String)
    (values : List Value) (type : Option DataType) :
    Settled (compare table c column operator values type) values.length fun _ => True := by
  cases found : table.get operator with
  | error e => exact .inl (refuses_bind (refuses_lift found) _)
  | ok op =>
    have known := OperatorTable.get_eq_ok_iff.mp found
    by_cases count : (values.length : Int) = op.arity
    · by_cases named : Command.IsNamed column
      · have again : table.get op.name = .ok op := by rwa [filed operator op known]
        have arity := few operator op known
        exact .inr (charges_compare found again count (by omega) named type)
      · exact .inl (refuses_compare found count named type)
    · refine settled_lift_bind fun op' found' => ?_
      obtain rfl : op = op' := Except.ok.inj (found.symm.trans found')
      simp only [count, ne_eq, not_false_eq_true, if_true]
      exact settled_throw _

theorem settled_compareExpression (filed : table.IsFiled) (operator : String)
    (expr : Option String) :
    Settled (compareExpression table c column operator expr) 0 fun _ => True := by
  refine settled_lift_bind fun op found => ?_
  by_cases count : op.arity = 1
  · simp only [count, ne_eq, not_true_eq_false, if_false]
    have again : table.get op.name = .ok op := by
      rwa [filed operator op (OperatorTable.get_eq_ok_iff.mp found)]
    exact settled_bind (Command.settled_expression column expr) fun first _ =>
      charges_ofParameters again first none (by simp [count])
  · simp only [count, ne_eq, not_false_eq_true, if_true]
    exact settled_throw _

theorem settled_compareColumn (filed : table.IsFiled) (operator : String)
    (otherColumn otherTable : Option String) :
    Settled (compareColumn table c column operator otherColumn otherTable) 0 fun _ => True := by
  unfold compareColumn
  by_cases missing : otherColumn.getD "" = ""
  · simp only [missing, if_true]
    exact settled_throw _
  · simp only [missing, if_false]
    exact settled_compareExpression filed operator _

theorem settled_inList (values : List Value) (type : Option DataType) :
    Settled (inList c column values type negated) values.length fun _ => True :=
  settled_bind (n := 0) (Command.settled_parameters c column values _) fun _ known =>
    charges_lift (ofItems_eq_ok_iff.mpr ⟨known.1, rfl⟩) trivial

/-- The entries of a text that are not blank. -/
def entries (separator : String) (text : Option String) : List String :=
  (Text.cut separator (text.getD "")).filter fun entry => !Text.isBlank entry

theorem length_tokens (separator : String) (text : Option String) :
    (tokens separator (text.getD "")).length = (entries separator text).length := by
  rw [tokens, entries, ← List.countP_eq_length_filter, ← List.countP_eq_length_filter,
    List.countP_map]
  refine List.countP_congr fun entry _ => ?_
  simp [← Text.isBlank_iff_trim_eq]

theorem settled_inDelimited (text : Option String) (type : DataType) (separator : String) :
    Settled (inDelimited c column text type separator negated) (entries separator text).length
      fun _ => True := by
  unfold inDelimited
  by_cases empty : separator = ""
  · simp only [empty, if_true]
    exact settled_throw _
  · simp only [empty, if_false]
    rw [mapM_lift]
    refine settled_lift_bind fun values read => ?_
    rw [← length_tokens, ← length_of_mapM_ok read]
    exact settled_inList values (some type)

/-- How many values there are in a collection. -/
def size : Value → Nat
  | .list items => items.length
  | .buffer content => content.length
  | _ => 0

theorem length_of_elements {values : Value} {list : List Value}
    (h : elements column values = .ok list) : list.length = size values := by
  cases values with
  | null => cases h; rfl
  | list items => cases h; rfl
  | buffer content => cases h; simp [size]
  | _ => cases h

theorem settled_inValues (values : Value) (type : Option DataType) :
    Settled (inValues c column values type negated) (size values) fun _ => True := by
  refine settled_lift_bind fun list read => ?_
  rw [← length_of_elements read]
  exact settled_inList list type

end Condition

/-- How many names a call takes when it succeeds: one for each value that it binds. -/
def Call.charge : Call → Nat
  | nextName => 1
  | parameter .. => 1
  | compare _ _ values _ => values.length
  | inValues _ values _ _ => Condition.size values
  | inDelimited _ text _ separator _ => (Condition.entries separator text).length
  | _ => 0

theorem settled_call {operators : OperatorTable} (filed : operators.IsFiled)
    (few : operators.TakesUpToTwo) (c : Command) (call : Call) :
    Settled (call.run operators c) call.charge fun _ => True := by
  cases call with
  | nextName => exact settled_map (Command.settled_nextName c) _
  | parameter column value type =>
    exact settled_map (Command.settled_parameter c column value type) _
  | literal column value type => exact settled_map (Command.settled_literal column value type) _
  | expression column expr => exact settled_map (Command.settled_expression column expr) _
  | compare column operator values type =>
    exact settled_map (Condition.settled_compare filed few operator values type) _
  | compareColumn column operator otherColumn otherTable =>
    exact settled_map (Condition.settled_compareColumn filed operator otherColumn otherTable) _
  | compareExpression column operator expr =>
    exact settled_map (Condition.settled_compareExpression filed operator expr) _
  | inValues column values type negated =>
    exact settled_map (Condition.settled_inValues values type) _
  | inDelimited column text type separator negated =>
    exact settled_map (Condition.settled_inDelimited text type separator) _
  | _ => exact settled_map (settled_lift _) _

end Criteria
