import Criteria.Proofs.Naming
import Criteria.Proofs.Operator.Usable

/-!
# What stays in the table of operators

A table of operators changes by registrations only. So what holds of each built-in operator and of
each one that is registered holds of all, at any time, and a name that has once stood for an
operator always stands for one, though perhaps for another.
-/

namespace Criteria

namespace OperatorTable

/-- What holds of each operator and the name that it is filed under. -/
def Entries (own : String → Operator → Prop) (table : OperatorTable) : Prop :=
  ∀ name op, table.find? name = some op → own name op

/-- Every operator is as a registration under its name would have made it. -/
def IsDefined : OperatorTable → Prop :=
  Entries fun name op => Operator.define name op.template op.arity = .ok op

variable {own : String → Operator → Prop}

theorem entries_builtIn (each : ∀ entry ∈ builtIn.entries, own entry.1 entry.2) :
    builtIn.Entries own :=
  fun name op found => each (name, op) (mem_entries_of_find? found)

theorem entries_put {table : OperatorTable} (entries : table.Entries own) {name : String}
    {op : Operator} (new : own name op) : Entries own (table.put name op) := by
  intro other found known
  rw [NameMap.find?_put] at known
  by_cases same : other = name
  · rw [if_pos same] at known
    cases known
    exact same ▸ new
  · rw [if_neg same] at known
    exact entries other found known

theorem isDefined_builtIn : builtIn.IsDefined :=
  entries_builtIn fun entry mem => (builtIn_plain entry mem).1

/-- Putting in an operator takes no name away. -/
theorem isSome_put {table : OperatorTable} {name other : String} {op : Operator}
    (known : (table.find? other).isSome = true) :
    ((table.put name op).find? other).isSome = true := by
  rw [NameMap.find?_put]
  by_cases same : other = name
  · rw [if_pos same]
    rfl
  · rwa [if_neg same]

end OperatorTable

/-- An action leaves the table as it is, or puts in an operator that could be defined. -/
theorem Action.operatorsAfter_cases (action : Action) (table : OperatorTable) :
    action.operatorsAfter table = table ∨
      ∃ name template arity op, action = .registerOperator name template arity ∧
        Operator.define name template arity = .ok op ∧
          action.operatorsAfter table = table.put name op := by
  cases action with
  | registerOperator name template arity =>
    cases registered : table.register name template arity with
    | error e => exact .inl (by simp [operatorsAfter, registered])
    | ok pair =>
      obtain ⟨defined, kept⟩ := OperatorTable.register_ok registered
      exact .inr ⟨name, template, arity, pair.1, rfl, defined, by simp [operatorsAfter, registered,
        kept]⟩
  | _ => exact .inl rfl

namespace Session

/-- What holds of the built-in operators and of those that are registered holds throughout. -/
theorem entries_after {own : String → Operator → Prop}
    (first : OperatorTable.builtIn.Entries own) {actions : List Action}
    (registered : ∀ name template arity op, .registerOperator name template arity ∈ actions →
      Operator.define name template arity = .ok op → own name op) :
    (after actions).Meets (OperatorTable.Entries own) := by
  refine meets_after first fun action mem table entries => ?_
  rcases action.operatorsAfter_cases table with same | ⟨name, template, arity, op, rfl, made, kept⟩
  · rwa [same]
  · rw [kept]
    exact OperatorTable.entries_put entries (registered name template arity op mem made)

/-- In every session all operators are ones that registration has let pass. -/
theorem isDefined_after (actions : List Action) :
    (after actions).Meets OperatorTable.IsDefined := by
  refine entries_after OperatorTable.isDefined_builtIn fun name template arity op _ made => ?_
  obtain rfl := Operator.eq_of_define made
  exact made

/-- What a call met is what had been registered when it was made. -/
theorem operators_of_event {s : Session} {action : Action} {e : Event}
    (he : e ∈ (s.perform action).events) :
    e ∈ s.events ∨ e.operators = s.workspace.operators := by
  cases action with
  | openCommand backend stem => exact .inl he
  | call id call =>
    rcases perform_call s id call with same | ⟨c, -, same⟩
    · exact .inl (same ▸ he)
    · rw [same, mem_events_record] at he
      rcases he with he | rfl
      · exact .inl he
      · exact .inr rfl
  | _ =>
    rw [(keeps_perform rfl s).events] at he
    exact .inl he

/-- An operator that a call has met is registered for ever, if perhaps in another form. -/
theorem known_after (actions : List Action) :
    ∀ e ∈ (after actions).events, ∀ name, (e.operators.find? name).isSome = true →
      ((after actions).workspace.operators.find? name).isSome = true := by
  refine List.foldlRecOn (motive := fun s : Session => ∀ e ∈ s.events, ∀ name,
    (e.operators.find? name).isSome = true → (s.workspace.operators.find? name).isSome = true)
    actions perform (by simp [start]) fun s ih action _ e he name met => ?_
  have known : (s.workspace.operators.find? name).isSome = true := by
    rcases operators_of_event he with he | same
    · exact ih e he name met
    · exact same ▸ met
  rw [operators_perform]
  rcases action.operatorsAfter_cases s.workspace.operators with
    same | ⟨_, _, _, op, -, -, kept⟩
  · rwa [same]
  · rw [kept]
    exact OperatorTable.isSome_put known

end Session
end Criteria
