import Criteria.Select

/-!
# Statements ready for execution

Statements ready for execution: a text, the values for its placeholders, and the name of the
dialect it is written in.
-/

namespace Criteria

structure Compiled where
  sql : String
  bindings : Bindings
  dialect : String

namespace Compiled

/-- The values together with others that are known only at execution, which win. -/
def withRuntime (s : Compiled) (runtime : Bindings) : Bindings := s.bindings.merge runtime

end Compiled

/-- The values that a condition binds. -/
def Condition.bindings (operators : OperatorTable) (c : Condition) : Except Error Bindings := do
  return .ofParameters ((← c.parameters operators).getD [])

/-- A condition as a command writes it. -/
def Command.compile (operators : OperatorTable) (c : Command) (condition : Condition) :
    Except Error Compiled := do
  let sql ← condition.text operators
  return ⟨sql, ← condition.bindings operators, c.dialect.name⟩

end Criteria
