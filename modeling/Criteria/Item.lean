import Criteria.Select
import Criteria.Settings

/-!
# Comparing objects of all kinds

Objects of all kinds, compared with each other. Objects of different kinds are never equal.
Parameters, conditions, statements and settings are equal by what they hold, backends and
commands only to themselves. An object with a signaling number in it may have no answer.
-/

namespace Criteria

inductive Item where
  | parameter (p : Parameter)
  | condition (c : Condition)
  | select (q : Select)
  | settings (s : Settings)
  | backend (b : Backend)
  | command (c : Command)

inductive ItemKey where
  | parameter (k : ParameterKey)
  | condition (s : Condition.Shape)
  | select (k : SelectKey)
  | settings (s : Settings)
  | backend (number : Nat)
  | command (id : Nat)
deriving DecidableEq

namespace ItemKey

def digest : ItemKey → UInt64
  | .parameter k => k.digest
  | .condition s => s.digest
  | .select k => k.digest
  | .settings s => s.digest
  | .backend number => hash number
  | .command id => hash id

def compared : ItemKey → ItemKey → Comparison
  | .parameter a, .parameter b => a.compared b
  | .condition a, .condition b => a.compared b
  | .select a, .select b => a.compared b
  | a, b => .ofEq a b

theorem compared_eq_true_iff (a b : ItemKey) : a.compared b = some true ↔ a = b := by
  cases a <;> cases b <;>
    simp [compared, ParameterKey.compared_eq_true_iff, Condition.Shape.compared_eq_true_iff,
      SelectKey.compared_eq_true_iff, Comparison.ofEq_eq_true_iff]

end ItemKey

namespace Item

def key : Item → ItemKey
  | .parameter p => .parameter p.key
  | .condition c => .condition c.shape
  | .select q => .select q.key
  | .settings s => .settings s
  | .backend b => .backend b.number
  | .command c => .command c.id

/-- A summary that equal objects have in common. -/
def digest (a : Item) : UInt64 := a.key.digest

/-- Whether two objects are equal, unless they cannot be compared. -/
def equal (a b : Item) : Except Error Bool :=
  match a.key.compared b.key with
  | some r => .ok r
  | none => .error .signalingNumber

/-- Whether two objects count as one in a set: they are compared only if the summaries agree. -/
def same (a b : Item) : Except Error Bool :=
  if a.digest = b.digest then equal a b else .ok false

/-- Puts an object into a set, unless one like it is there. -/
def insertDistinct (set : List Item) (a : Item) : Except Error (List Item) := do
  return if ← set.anyM (same · a) then set else set ++ [a]

/-- The size of a set of objects. -/
def distinctCount (items : List Item) : Except Error Nat :=
  return (← items.foldlM insertDistinct []).length

theorem equal_eq_true_iff {a b : Item} : equal a b = .ok true ↔ a.key = b.key := by
  rw [← ItemKey.compared_eq_true_iff, equal]
  split
  · next h => simp [h]
  · next h => simp [h]

end Item
end Criteria
