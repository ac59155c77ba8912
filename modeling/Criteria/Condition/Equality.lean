import Criteria.Condition

/-!
# Equality of conditions

When two conditions are equal: they have the same shape, whatever command they were built on and
whatever names it gave.
-/

namespace Criteria.Condition

/-- A condition that holds parameters and no other conditions. -/
inductive Leaf where
  | comparison (operator : String) (first : ParameterKey) (second : Option ParameterKey)
  | membership (column : Option String) (items : List ParameterKey) (negated : Bool)
deriving DecidableEq

/-- What a condition does with the conditions below it. -/
inductive Label where
  | group (connective : Connective)
  | negation
deriving DecidableEq, Hashable

abbrev Shape := Tree Leaf Label

mutual

def shape : Condition → Shape
  | comparison _ operator first second =>
    .leaf (.comparison operator first.key (second.map (·.key)))
  | membership _ column items negated => .leaf (.membership column (items.map (·.key)) negated)
  | group _ connective conditions => .node (.group connective) (shapes conditions)
  | negation _ condition => .node .negation [shape condition]

def shapes : List Condition → List Shape
  | [] => []
  | c :: rest => shape c :: shapes rest

end

/-- The values in a condition take no part in its summary. -/
def Leaf.digest : Leaf → UInt64
  | .comparison operator first second => hash (operator, first.digest, second.map (·.digest))
  | .membership column items negated => hash (column, items.map (·.digest), negated)

def Shape.digest (s : Shape) : UInt64 := Tree.digest Leaf.digest hash s

def Leaf.compared : Leaf → Leaf → Comparison
  | .comparison operator first second, .comparison operator' first' second' =>
    (Comparison.ofEq operator operator').andThen
      ((first.compared first').andThen (.options ParameterKey.compared second second'))
  | .membership column items negated, .membership column' items' negated' =>
    (Comparison.ofEq column column').andThen
      ((Comparison.lists ParameterKey.compared items items').andThen (.ofEq negated negated'))
  | .comparison .., .membership .. => some false
  | .membership .., .comparison .. => some false

def Shape.compared (s t : Shape) : Comparison := Tree.compared Leaf.compared s t

theorem Leaf.compared_eq_true_iff (a b : Leaf) : a.compared b = some true ↔ a = b := by
  cases a <;> cases b <;>
    simp [compared, Comparison.andThen_eq_true_iff, Comparison.ofEq_eq_true_iff,
      Comparison.options_eq_true_iff, Comparison.lists_eq_true_iff,
      ParameterKey.compared_eq_true_iff]

theorem Shape.compared_eq_true_iff (s t : Shape) : s.compared t = some true ↔ s = t :=
  Tree.compared_eq_true_iff Leaf.compared_eq_true_iff s t

theorem shapes_eq_map (conditions : List Condition) : shapes conditions = conditions.map shape := by
  induction conditions with
  | nil => rfl
  | cons c rest ih => simp [shapes, ih]

end Criteria.Condition
