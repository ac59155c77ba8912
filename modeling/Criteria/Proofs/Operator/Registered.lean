import Criteria.Proofs.Operator.BuiltIn
import Criteria.Proofs.Outcome

/-!
# Registered operators

What can be registered as an operator, and what is kept as operators are registered.
-/

namespace Criteria

theorem Operator.define_eq_ok_iff {name template : String} {arity : Int} {op : Operator} :
    Operator.define name template arity = .ok op ↔
      ∃ slots, Template.slots template = .ok slots ∧ "0" ∈ slots ∧
        areNumbersTo arity.toNat (slots.filter (· ≠ "0")) = true ∧
          op = ⟨name, template, arity⟩ := by
  unfold Operator.define
  cases Template.slots template with
  | error fault => exact ⟨nofun, by rintro ⟨_, ⟨⟩, -⟩⟩
  | ok slots =>
    simp only [Except.ok.injEq, exists_eq_left']
    by_cases column : "0" ∈ slots
    · by_cases fit : areNumbersTo arity.toNat (slots.filter (· ≠ "0")) = true
      · simp only [column, fit, not_true_eq_false, if_false, if_true, true_and]
        exact ⟨fun h => (Except.ok.inj h).symm, fun h => h ▸ rfl⟩
      · simp only [column, fit, not_true_eq_false, if_false, true_and]
        exact ⟨nofun, fun h => absurd h.1 nofun⟩
    · simp only [column, not_false_eq_true, if_true]
      exact ⟨nofun, fun h => absurd h.1 nofun⟩

theorem Operator.eq_of_define {name template : String} {arity : Int} {op : Operator}
    (h : Operator.define name template arity = .ok op) : op = ⟨name, template, arity⟩ := by
  obtain ⟨_, -, -, -, made⟩ := Operator.define_eq_ok_iff.mp h
  exact made

namespace OperatorTable

/-- Every operator is filed under its own name. -/
def IsFiled (table : OperatorTable) : Prop :=
  ∀ name op, table.find? name = some op → op.name = name

/-- Every operator takes no value, one or two. -/
def TakesUpToTwo (table : OperatorTable) : Prop :=
  ∀ name op, table.find? name = some op → op.arity = 0 ∨ op.arity = 1 ∨ op.arity = 2

theorem isFiled_builtIn : builtIn.IsFiled := fun _ _ => name_of_find?

theorem takesUpToTwo_builtIn : builtIn.TakesUpToTwo :=
  fun _ _ found => (isWorded_of_find? found).2.1

theorem register_ok {table : OperatorTable} {name template : String} {arity : Int} {op : Operator}
    {operators : OperatorTable} (h : table.register name template arity = .ok (op, operators)) :
    Operator.define name template arity = .ok op ∧ operators = table.put name op := by
  obtain ⟨defined, made, h⟩ := bind_eq_ok_iff.mp h
  cases h
  exact ⟨made, rfl⟩

theorem isFiled_register {table : OperatorTable} {name template : String} {arity : Int}
    {op : Operator} {operators : OperatorTable} (filed : table.IsFiled)
    (h : table.register name template arity = .ok (op, operators)) : operators.IsFiled := by
  obtain ⟨defined, rfl⟩ := register_ok h
  obtain rfl := Operator.eq_of_define defined
  intro other found known
  rw [NameMap.find?_put] at known
  by_cases same : other = name
  · rw [if_pos same] at known
    cases known
    exact same.symm
  · rw [if_neg same] at known
    exact filed other found known

theorem takesUpToTwo_register {table : OperatorTable} {name template : String} {arity : Int}
    {op : Operator} {operators : OperatorTable} (few : table.TakesUpToTwo)
    (own : arity = 0 ∨ arity = 1 ∨ arity = 2)
    (h : table.register name template arity = .ok (op, operators)) : operators.TakesUpToTwo := by
  obtain ⟨defined, rfl⟩ := register_ok h
  obtain rfl := Operator.eq_of_define defined
  intro other found known
  rw [NameMap.find?_put] at known
  by_cases same : other = name
  · rw [if_pos same] at known
    cases known
    exact own
  · rw [if_neg same] at known
    exact few other found known

end OperatorTable
end Criteria
