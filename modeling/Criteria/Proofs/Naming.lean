import Criteria.Proofs.Charge
import Criteria.Proofs.Condition.Built
import Mathlib.Data.List.Basic
import Mathlib.Data.List.Flatten
import Mathlib.Data.List.Induction

/-!
# The names of a command

The names that a command hands out in the course of a session. While operators take at most two
values, they are numbered from zero in the order in which they are handed out, a call takes one
for each value that it binds if it succeeds and none if it fails, and what is called on other
commands makes no difference.
-/

namespace Criteria

open Build

/-- The names in an answer, for parameters those under which they are bound. -/
def Answer.names : Answer → List String
  | name s => [s]
  | answer => (answer.held.filter (·.bindable)).map (·.name)

namespace Command

theorem namesFrom_append (c : Command) (count more : Nat) :
    c.namesFrom 0 count ++ c.namesFrom count more = c.namesFrom 0 (count + more) := by
  rw [namesFrom, namesFrom, ← List.map_append, namesFrom]
  simp [← List.range'_append]

theorem nodup_namesFrom (c : Command) (first count : Nat) : (c.namesFrom first count).Nodup := by
  rw [namesFrom, List.Nodup, List.pairwise_map]
  exact List.Pairwise.imp (fun differ same => differ (parameterName_injective same))
    (List.nodup_range' 1)

end Command

namespace Condition

theorem names_inList {c : Command} {column : Option String} {values : List Value}
    {type : Option DataType} {negated : Bool} {d : Condition} {s t : Supply}
    (h : (inList c column values type negated).run.run s = (.ok d, t)) :
    (Answer.condition d).names = c.namesFrom s.next values.length := by
  obtain ⟨items, rfl, -, made, numbers, -⟩ := inList_ok h
  have length : items.length = values.length := by rw [← made, List.length_map]
  rw [← length]
  exact Command.names_of_numbers numbers

theorem names_compare {table : OperatorTable} {c : Command} {column : Option String}
    {operator : String} {values : List Value} {type : Option DataType} {d : Condition}
    {s t : Supply} (h : (compare table c column operator values type).run.run s = (.ok d, t)) :
    (Answer.condition d).names = c.namesFrom s.next values.length := by
  obtain ⟨op, first, second, -, -, made, -, bound, -⟩ := compare_ok h
  obtain ⟨op', -, -, rfl⟩ := ofParameters_ok made
  rcases bound with ⟨rfl, written, rfl⟩ | ⟨rfl, numbers⟩
  · simp [Answer.names, Answer.held, held, written, Command.namesFrom]
  · rw [List.length_map]
    exact Command.names_of_numbers numbers

theorem names_compareExpression {table : OperatorTable} {c : Command} {column : Option String}
    {operator : String} {expr : Option String} {d : Condition} {s t : Supply}
    (h : (compareExpression table c column operator expr).run.run s = (.ok d, t)) :
    (Answer.condition d).names = [] := by
  obtain ⟨op, first, -, -, made, -, -, written, -⟩ := compareExpression_ok h
  obtain ⟨op', -, -, rfl⟩ := ofParameters_ok made
  simp [Answer.names, Answer.held, held, written]

end Condition

/-- A call that succeeds has given out the next names, as many as it charges. -/
theorem names_of_call {operators : OperatorTable} {c : Command} {call : Call} {answer : Answer}
    {s t : Supply} (h : (call.run operators c).run.run s = (.ok answer, t))
    (creates : call.creates = true) : answer.names = c.namesFrom s.next call.charge := by
  cases call with
  | nextName =>
    obtain ⟨name, taken, rfl⟩ := map_ok_iff.mp h
    cases taken
    rfl
  | parameter column value type =>
    obtain ⟨p, hp, rfl⟩ := map_ok_iff.mp h
    obtain ⟨-, -, name, -⟩ := Command.parameter_ok hp
    have numbers : c.Numbers s.next [p] := ⟨name, trivial⟩
    exact Command.names_of_numbers numbers
  | literal column value type =>
    obtain ⟨p, hp, rfl⟩ := map_ok_iff.mp h
    obtain ⟨-, -, written, -⟩ := Command.literal_ok hp
    simp [Answer.names, Answer.held, written, Command.namesFrom, Call.charge]
  | expression column expr =>
    obtain ⟨p, hp, rfl⟩ := map_ok_iff.mp h
    obtain ⟨-, -, written, -⟩ := Command.expression_ok hp
    simp [Answer.names, Answer.held, written, Command.namesFrom, Call.charge]
  | compare column operator values type =>
    obtain ⟨d, hd, rfl⟩ := map_ok_iff.mp h
    exact Condition.names_compare hd
  | compareColumn column operator otherColumn otherTable =>
    obtain ⟨d, hd, rfl⟩ := map_ok_iff.mp h
    obtain ⟨expr, hd⟩ := Condition.compareColumn_ok hd
    exact Condition.names_compareExpression hd
  | compareExpression column operator expr =>
    obtain ⟨d, hd, rfl⟩ := map_ok_iff.mp h
    exact Condition.names_compareExpression hd
  | inValues column values type negated =>
    obtain ⟨d, hd, rfl⟩ := map_ok_iff.mp h
    obtain ⟨list, read, hd⟩ := Condition.inValues_ok hd
    rw [Condition.names_inList hd, Condition.length_of_elements read]
    rfl
  | inDelimited column text type separator negated =>
    obtain ⟨d, hd, rfl⟩ := map_ok_iff.mp h
    obtain ⟨list, read, hd⟩ := Condition.inDelimited_ok hd
    rw [Condition.names_inList hd, length_of_mapM_ok read, Condition.length_tokens]
    rfl
  | inParameters => cases creates
  | ofParameters => cases creates
  | ofItems => cases creates
  | join connective conditions onSelf =>
    obtain ⟨d, hd, rfl⟩ := map_ok_iff.mp h
    obtain ⟨made, -⟩ := Condition.join_ok (lift_ok_iff.mp hd).1
    rw [made]
    rfl
  | ofGroup connective conditions =>
    obtain ⟨d, hd, rfl⟩ := map_ok_iff.mp h
    obtain ⟨rfl, -⟩ := Condition.ofGroup_ok (lift_ok_iff.mp hd).1
    rfl
  | negate condition =>
    obtain ⟨d, hd, rfl⟩ := map_ok_iff.mp h
    obtain ⟨inner, -, rfl⟩ := Condition.negate_ok (lift_ok_iff.mp hd).1
    rfl
  | ofNegation condition =>
    obtain ⟨d, hd, rfl⟩ := map_ok_iff.mp h
    obtain ⟨rfl, -⟩ := Condition.ofNegation_ok (lift_ok_iff.mp hd).1
    rfl

/-- What a call hands out it has taken. -/
theorem length_names_le {operators : OperatorTable} {c : Command} {call : Call} {answer : Answer}
    {s t : Supply} (h : (call.run operators c).run.run s = (.ok answer, t))
    (creates : call.creates = true) : s.next + answer.names.length ≤ t.next := by
  cases call with
  | nextName =>
    obtain ⟨name, taken, rfl⟩ := map_ok_iff.mp h
    cases taken
    exact Nat.le_refl _
  | _ =>
    obtain ⟨-, left⟩ := call_takes h creates
    obtain ⟨_, -, rfl⟩ := map_ok_iff.mp h
    simpa [Answer.names] using left

namespace Event

/-- The names that the call has handed out. -/
def names (e : Event) : List String :=
  match e.outcome with
  | .ok answer => if e.call.creates then answer.names else []
  | .error _ => []

/-- The names that the call has taken from its command. A call that failed may have taken some. -/
def taken (e : Event) : List String :=
  e.command.namesFrom e.before.next (e.after.next - e.before.next)

/-- How many names the call was to take: none if it failed. -/
def charge (e : Event) : Nat :=
  match e.outcome with
  | .ok _ => e.call.charge
  | .error _ => 0

end Event

/-- The action is anything but a call on another command. -/
def Action.concerns (id : Nat) : Action → Bool
  | .call other _ => other == id
  | _ => true

/-- The operators that there are after an action. -/
def Action.operatorsAfter (table : OperatorTable) : Action → OperatorTable
  | .registerOperator name template arity =>
    match table.register name template arity with
    | .ok (_, operators) => operators
    | .error _ => table
  | _ => table

/-- What is given its parameters binds no values. -/
theorem charge_of_not_creates {call : Call} (given : call.creates = false) : call.charge = 0 := by
  cases call <;> first | rfl | cases given

namespace Session

/-- The names that a command has handed out, in the order in which it did. -/
def names (s : Session) (c : Command) : List String :=
  (s.events.filter (·.command = c)).flatMap Event.names

/-- The names that calls have taken from a command, in the order in which they did. -/
def taken (s : Session) (c : Command) : List String :=
  (s.events.filter (·.command = c)).flatMap Event.taken

theorem operators_lookUp (w : Workspace) (f : Catalog → Except Error (Backend × Catalog)) :
    (w.lookUp f).2.operators = w.operators := by
  unfold Workspace.lookUp
  cases f w.catalog <;> rfl

theorem operators_perform (s : Session) (action : Action) :
    (s.perform action).workspace.operators = action.operatorsAfter s.workspace.operators := by
  cases action with
  | openCommand backend stem => rfl
  | call id call =>
    rcases perform_call s id call with same | ⟨c, -, same⟩
    · rw [same]
      rfl
    · rw [same]
      rfl
  | registerOperator name template arity =>
    simp only [perform, Workspace.registerOperator, Action.operatorsAfter]
    cases s.workspace.operators.register name template arity <;> rfl
  | registerDialect name d => rfl
  | getBackend name => exact operators_lookUp _ _
  | createBackend name => exact operators_lookUp _ _
  | getForAddress address => exact operators_lookUp _ _

theorem mem_events_record {s : Session} {c : Command} {call : Call} {e : Event} :
    e ∈ (s.record c call).events ↔ e ∈ s.events ∨ e = s.event c call := by
  simp [record]

/-- What has been called stays so. -/
theorem mem_events_perform {s : Session} {e : Event} (he : e ∈ s.events) (action : Action) :
    e ∈ (s.perform action).events := by
  cases action with
  | openCommand backend stem => exact he
  | call id call =>
    rcases perform_call s id call with same | ⟨c, -, same⟩
    · rwa [same]
    · rw [same, mem_events_record]
      exact .inl he
  | _ => rwa [(keeps_perform rfl s).events]

/-- The operators are as they should be, now as whenever something was called. -/
structure Meets (s : Session) (kind : OperatorTable → Prop) : Prop where
  now : kind s.workspace.operators
  met : ∀ e ∈ s.events, kind e.operators

theorem meets_perform {kind : OperatorTable → Prop} {s : Session} (h : s.Meets kind)
    {action : Action} (kept : kind (action.operatorsAfter s.workspace.operators)) :
    (s.perform action).Meets kind := by
  refine ⟨operators_perform s action ▸ kept, ?_⟩
  cases action with
  | openCommand backend stem => exact h.met
  | call id call =>
    rcases perform_call s id call with same | ⟨c, -, same⟩
    · rw [same]
      exact h.met
    · rw [same]
      intro e he
      rcases mem_events_record.mp he with he | rfl
      · exact h.met e he
      · exact h.now
  | _ =>
    rw [(keeps_perform rfl s).events]
    exact h.met

/-- What holds of the built-in operators, and is kept by each action, holds throughout. -/
theorem meets_after {kind : OperatorTable → Prop} (first : kind .builtIn) {actions : List Action}
    (kept : ∀ action ∈ actions, ∀ table, kind table → kind (action.operatorsAfter table)) :
    (after actions).Meets kind := by
  have begun : start.Meets kind := ⟨first, by simp [start]⟩
  exact List.foldlRecOn (motive := (·.Meets kind)) actions perform begun
    fun s h action mem => meets_perform h (kept action mem _ h.now)

theorem filed_after (actions : List Action) : (after actions).Meets OperatorTable.IsFiled := by
  refine meets_after OperatorTable.isFiled_builtIn fun action _ table filed => ?_
  cases action with
  | registerOperator name template arity =>
    cases registered : table.register name template arity with
    | error e => simpa [Action.operatorsAfter, registered] using filed
    | ok pair =>
      simpa [Action.operatorsAfter, registered] using
        OperatorTable.isFiled_register filed registered
  | _ => exact filed

theorem takesUpToTwo_after {actions : List Action}
    (few : ∀ name template arity, .registerOperator name template arity ∈ actions →
      arity = 0 ∨ arity = 1 ∨ arity = 2) :
    (after actions).Meets OperatorTable.TakesUpToTwo := by
  refine meets_after OperatorTable.takesUpToTwo_builtIn fun action mem table known => ?_
  cases action with
  | registerOperator name template arity =>
    cases registered : table.register name template arity with
    | error e => simpa [Action.operatorsAfter, registered] using known
    | ok pair =>
      simpa [Action.operatorsAfter, registered] using
        OperatorTable.takesUpToTwo_register known (few name template arity mem) registered
  | _ => exact known

theorem charge_of_event {s : Session} (h : s.Consistent) {e : Event} (he : e ∈ s.events)
    (filed : e.operators.IsFiled) (few : e.operators.TakesUpToTwo) :
    e.after.next = e.before.next + e.charge ∧
      e.names = e.command.namesFrom e.before.next e.charge := by
  have ran := h.ran e he
  have settled := settled_call filed few e.command e.call
  cases outcome : e.outcome with
  | error _ =>
    rw [outcome] at ran
    have left := next_of_settled_error settled ran
    simpa [Event.charge, Event.names, outcome, Command.namesFrom] using left
  | ok answer =>
    rw [outcome] at ran
    have left := next_of_settled_ok settled ran
    refine ⟨by simpa [Event.charge, outcome] using left, ?_⟩
    cases creates : e.call.creates with
    | true => simpa [Event.names, Event.charge, outcome, creates] using names_of_call ran creates
    | false =>
      simp [Event.names, Event.charge, outcome, creates, charge_of_not_creates creates,
        Command.namesFrom]

theorem taken_record (s : Session) (c d : Command) (call : Call) :
    (s.record c call).taken d = s.taken d ++ if c = d then (s.event c call).taken else [] := by
  have own : (s.event c call).command = c := rfl
  by_cases same : c = d
  · subst same
    simp [taken, record, List.filter_append, own]
  · simp [taken, record, List.filter_append, own, same]

/-- Each command has taken its names one after the other, from zero on. -/
def InOrder (s : Session) : Prop :=
  ∀ c ∈ s.commands, s.taken c = c.namesFrom 0 (s.workspace.handedOut c)

theorem inOrder_openCommand {s : Session} (consistent : s.Consistent) (h : s.InOrder)
    (backend : Backend) (stem : String) : (s.perform (.openCommand backend stem)).InOrder := by
  intro c opened
  have opened : c ∈ s.commands ∨ c = ⟨s.workspace.counters.length, backend, stem⟩ := by
    simpa [perform, Workspace.openCommand] using opened
  change s.taken c = c.namesFrom 0 ((s.workspace.counters ++ [0]).getD c.id 0)
  rcases opened with old | rfl
  · have bound := id_lt_of_mem consistent old
    rw [h c old, List.getD_eq_getElem?_getD, List.getElem?_append_left bound,
      ← List.getD_eq_getElem?_getD]
    rfl
  · -- Nothing can have been called on a command that was not there.
    have unused :
        s.events.filter (·.command = ⟨s.workspace.counters.length, backend, stem⟩) = [] := by
      rw [List.filter_eq_nil_iff]
      intro e he same
      have bound := id_lt_of_mem consistent (consistent.known e he)
      rw [of_decide_eq_true same] at bound
      exact Nat.lt_irrefl _ bound
    simp [taken, unused, Command.namesFrom]

theorem inOrder_record {s : Session} (consistent : s.Consistent) (h : s.InOrder) {c : Command}
    (mem : c ∈ s.commands) (call : Call) : (s.record c call).InOrder := by
  intro d opened
  have begun : (s.event c call).before.next = s.workspace.handedOut c := rfl
  have left : s.workspace.handedOut c ≤ (s.event c call).after.next :=
    staysTaken_call s.workspace.operators c call (s.event c call).before
  have own : (s.event c call).command = c := rfl
  rw [taken_record, h d opened, handedOut_record s c d call (id_lt_of_mem consistent mem)]
  by_cases same : c = d
  · subst same
    rw [if_pos rfl, if_pos rfl, Event.taken, own, begun, Command.namesFrom_append,
      Nat.add_sub_cancel' left]
  · have apart : c.id ≠ d.id := fun number => same (eq_of_id_eq consistent mem opened number)
    rw [if_neg same, if_neg apart, List.append_nil]

theorem inOrder_of_keeps {s t : Session} (h : s.InOrder) (keeps : Keeps s t) : t.InOrder := by
  obtain ⟨w, commands, events⟩ := t
  obtain ⟨rfl, rfl, same⟩ := keeps
  intro c opened
  have taken := h c opened
  rwa [Workspace.handedOut, ← same] at taken

theorem inOrder_perform {s : Session} (consistent : s.Consistent) (h : s.InOrder)
    (action : Action) : (s.perform action).InOrder := by
  cases action with
  | openCommand backend stem => exact inOrder_openCommand consistent h backend stem
  | call id call =>
    rcases perform_call s id call with same | ⟨c, found, same⟩
    · rwa [same]
    · rw [same]
      exact inOrder_record consistent h (List.mem_of_getElem? found) call
  | _ => exact inOrder_of_keeps h (keeps_perform rfl s)

theorem after_append (actions : List Action) (action : Action) :
    after (actions ++ [action]) = (after actions).perform action := by
  simp [after]

theorem inOrder_after (actions : List Action) : (after actions).InOrder := by
  induction actions using List.reverseRecOn with
  | nil => exact fun _ opened => absurd opened List.not_mem_nil
  | append_singleton actions action ih =>
    rw [after_append]
    exact inOrder_perform (consistent_after actions) ih action

theorem sublist_taken_of_event {s : Session} (h : s.Consistent) {e : Event} (he : e ∈ s.events) :
    e.names.Sublist e.taken := by
  have ran := h.ran e he
  cases outcome : e.outcome with
  | error _ => simp [Event.names, outcome]
  | ok answer =>
    cases creates : e.call.creates with
    | false => simp [Event.names, outcome, creates]
    | true =>
      rw [outcome] at ran
      have named := names_of_call ran creates
      have left := length_names_le ran creates
      have enough : e.call.charge ≤ e.after.next - e.before.next := by
        rw [named, Command.namesFrom, List.length_map, List.length_range'] at left
        omega
      simp only [Event.names, outcome, creates, if_true, named, Event.taken, Command.namesFrom]
      exact (List.range'_sublist_right.mpr enough).map _

/-- What calls hand out is among what they take, in the same order. -/
theorem names_sublist_taken {s : Session} (h : s.Consistent) (c : Command) :
    (s.names c).Sublist (s.taken c) :=
  List.Sublist.flatMap_right _ fun _ he =>
    sublist_taken_of_event h (List.mem_filter.mp he).1

/-- While operators take at most two values, a command has handed out the names from zero on. -/
def Gapless (s : Session) : Prop :=
  (∀ e ∈ s.events, e.operators.TakesUpToTwo) →
    ∀ c ∈ s.commands, s.names c = c.namesFrom 0 (s.workspace.handedOut c)

theorem gapless_after (actions : List Action) : (after actions).Gapless := by
  intro few c opened
  rw [← inOrder_after actions c opened]
  refine List.flatMap_congr fun e he => ?_
  have he := (List.mem_filter.mp he).1
  obtain ⟨left, named⟩ := charge_of_event (consistent_after actions) he
    ((filed_after actions).met e he) (few e he)
  rw [named, Event.taken, left, Nat.add_sub_cancel_left]

/-- For the command of a number the second session is like the first one, while in the first one
more may have been called on other commands. -/
structure Alike (id : Nat) (s t : Session) : Prop where
  commands : t.commands = s.commands
  operators : t.workspace.operators = s.workspace.operators
  opened : t.workspace.counters.length = s.workspace.counters.length
  handedOut : t.workspace.counters[id]? = s.workspace.counters[id]?
  met : ∀ f ∈ t.events, ∃ e ∈ s.events, e.operators = f.operators

theorem alike_of_keeps {id : Nat} {s s' t t' : Session} (h : Alike id s t) (keepsS : Keeps s s')
    (keepsT : Keeps t t') (operators : t'.workspace.operators = s'.workspace.operators) :
    Alike id s' t' where
  commands := by rw [keepsS.commands, keepsT.commands, h.commands]
  operators := operators
  opened := by rw [keepsS.counters, keepsT.counters, h.opened]
  handedOut := by rw [keepsS.counters, keepsT.counters, h.handedOut]
  met := by
    rw [keepsS.events, keepsT.events]
    exact h.met

theorem alike_openCommand {id : Nat} {s t : Session} (h : Alike id s t) (backend : Backend)
    (stem : String) :
    Alike id (s.perform (.openCommand backend stem)) (t.perform (.openCommand backend stem)) where
  commands := by simp [perform, Workspace.openCommand, h.commands, h.opened]
  operators := h.operators
  opened := by simp [perform, Workspace.openCommand, h.opened]
  handedOut := by
    simp [perform, Workspace.openCommand, List.getElem?_append, h.opened, h.handedOut]
  met := h.met

/-- The same call on the command takes the same number of names in both. -/
theorem alike_record {s t : Session} {c : Command} (h : Alike c.id s t)
    (filed : s.Meets OperatorTable.IsFiled) (few : s.workspace.operators.TakesUpToTwo)
    (call : Call) : Alike c.id (s.record c call) (t.record c call) where
  commands := h.commands
  operators := h.operators
  opened := by simp [counters_record, h.opened]
  handedOut := by
    have begun : t.workspace.handedOut c = s.workspace.handedOut c := by
      simp [Workspace.handedOut, h.handedOut]
    have left : (t.event c call).after.next = (s.event c call).after.next := by
      change ((call.run t.workspace.operators c).run.run _).2.next = _
      rw [h.operators]
      exact next_eq_of_settled (settled_call filed.now few c call) begun
    rw [counters_record, counters_record, left, List.getElem?_set, List.getElem?_set, h.opened,
      if_pos rfl, if_pos rfl]
  met := by
    intro f hf
    rcases mem_events_record.mp hf with hf | rfl
    · obtain ⟨e, he, same⟩ := h.met f hf
      exact ⟨e, List.mem_append_left _ he, same⟩
    · exact ⟨_, List.mem_append_right _ List.mem_cons_self, h.operators.symm⟩

/-- What is called on another command makes no difference. -/
theorem alike_record_other {id : Nat} {s t : Session} {c : Command} (h : Alike id s t)
    (other : c.id ≠ id) (call : Call) : Alike id (s.record c call) t where
  commands := h.commands
  operators := h.operators
  opened := by simp [counters_record, h.opened]
  handedOut := by rw [counters_record, List.getElem?_set_ne other, h.handedOut]
  met := by
    intro f hf
    obtain ⟨e, he, same⟩ := h.met f hf
    exact ⟨e, List.mem_append_left _ he, same⟩

theorem alike_perform {id : Nat} {s t : Session} (consistent : s.Consistent)
    (filed : s.Meets OperatorTable.IsFiled) (action : Action)
    (few : ∀ e ∈ (s.perform action).events, e.operators.TakesUpToTwo) (h : Alike id s t) :
    Alike id (s.perform action) (if action.concerns id then t.perform action else t) := by
  cases action with
  | openCommand backend stem => exact alike_openCommand h backend stem
  | call other call =>
    cases found : s.commands[other]? with
    | none => simpa [perform, found, h.commands] using h
    | some c =>
      have number := consistent.numbered other c found
      by_cases own : other = id
      · have last : s.event c call ∈ (s.perform (.call other call)).events := by
          simp [perform, found, record]
        subst own number
        simpa [perform, found, h.commands, Action.concerns] using
          alike_record h filed (few _ last) call
      · have apart : c.id ≠ id := number ▸ own
        simpa [perform, found, Action.concerns, own] using alike_record_other h apart call
  | _ =>
    simp only [Action.concerns, if_true]
    refine alike_of_keeps h (keeps_perform rfl s) (keeps_perform rfl t) ?_
    rw [operators_perform, operators_perform, h.operators]

theorem alike_filter (id : Nat) (actions : List Action)
    (few : ∀ e ∈ (after actions).events, e.operators.TakesUpToTwo) :
    Alike id (after actions) (after (actions.filter (·.concerns id))) := by
  induction actions using List.reverseRecOn with
  | nil => exact ⟨rfl, rfl, rfl, rfl, fun f hf => ⟨f, hf, rfl⟩⟩
  | append_singleton actions action ih =>
    rw [after_append] at few
    have h := ih fun e he => few e (mem_events_perform he action)
    have next := alike_perform (consistent_after actions) (filed_after actions) action few h
    rw [after_append, List.filter_append]
    by_cases concerns : action.concerns id = true
    · rw [if_pos concerns] at next
      rwa [List.filter_cons_of_pos concerns, List.filter_nil, after_append]
    · rw [if_neg concerns] at next
      rwa [List.filter_cons_of_neg concerns, List.filter_nil, List.append_nil]

/-- Each command hands out its names in the order of their numbers, one for each value that a call
binds and none in a call that fails, whatever is called on other commands. -/
theorem names_of_command {actions : List Action}
    (few : ∀ e ∈ (after actions).events, e.operators.TakesUpToTwo) {c : Command}
    (opened : c ∈ (after actions).commands) :
    (after actions).names c =
        (List.range ((after actions).workspace.handedOut c)).map (fun n => c.stem ++ n.repr) ∧
      ((after actions).names c).Nodup ∧
      (∀ e ∈ (after actions).events, e.command = c →
        e.after.next = e.before.next + e.charge ∧ e.names.length = e.charge) ∧
      (after (actions.filter (·.concerns c.id))).names c = (after actions).names c := by
  have named := gapless_after actions few c opened
  refine ⟨?_, ?_, ?_, ?_⟩
  · rw [named, Command.namesFrom, List.range_eq_range']
    rfl
  · rw [named]
    exact Command.nodup_namesFrom c 0 _
  · rintro e he rfl
    have charged := charge_of_event (consistent_after actions) he
      ((filed_after actions).met e he) (few e he)
    exact ⟨charged.1, by rw [charged.2, Command.namesFrom, List.length_map, List.length_range']⟩
  · have alike := alike_filter c.id actions few
    have fewer : ∀ f ∈ (after (actions.filter (·.concerns c.id))).events,
        f.operators.TakesUpToTwo := by
      intro f hf
      obtain ⟨e, he, same⟩ := alike.met f hf
      exact same ▸ few e he
    rw [named, gapless_after _ fewer c (alike.commands ▸ opened), Workspace.handedOut,
      List.getD_eq_getElem?_getD, alike.handedOut, ← List.getD_eq_getElem?_getD]
    rfl

end Session

namespace Sample

/-! Two commands that take turns. One call on the first fails at its second entry, and one on the
second uses an operator that has just been registered. -/

def partner : Command := ⟨1, ⟨0, .postgres⟩, "q"⟩

def half : Call := .inDelimited (some "id") (some "1,x") .integer "," false

def turns : List Action :=
  [.openCommand command.backend command.stem, .openCommand partner.backend partner.stem,
    .call 0 .nextName, .call 1 between, .call 0 half,
    .registerOperator "REGEXP" "\x7b0\x7d REGEXP \x7b1\x7d" 1,
    .call 1 (.compare (some "name") "REGEXP" [.text "A"] none), .call 0 among]

theorem takesUpToTwo_turns : (Session.after turns).Meets OperatorTable.TakesUpToTwo := by
  refine Session.takesUpToTwo_after fun name template arity registered => ?_
  have own : arity = 1 := by simp [turns] at registered; exact registered.2.2
  exact .inr (.inl own)

end Sample

namespace Session

theorem names_of_command_turns :
    (after Sample.turns).names Sample.command = ["p0", "p1"] ∧
      ((after Sample.turns).names Sample.command).Nodup ∧
      (∀ e ∈ (after Sample.turns).events, e.command = Sample.command →
        e.after.next = e.before.next + e.charge ∧ e.names.length = e.charge) ∧
      (after (Sample.turns.filter (·.concerns 0))).names Sample.command = ["p0", "p1"] := by
  have opened : Sample.command ∈ (after Sample.turns).commands := List.mem_cons_self
  obtain ⟨named, nodup, charged, alone⟩ :=
    names_of_command (fun e he => Sample.takesUpToTwo_turns.met e he) opened
  have taken : (after Sample.turns).workspace.handedOut Sample.command = 2 := by decide +kernel
  rw [taken] at named
  exact ⟨named, nodup, charged, alone.trans named⟩

end Session
end Criteria
