/-!
# Kinds of conditions

The kinds of conditions, and what joins the conditions of a group.
-/

namespace Criteria

inductive ConditionKind where
  | comparison
  | membership
  | group
  | negation
deriving DecidableEq

def ConditionKind.name : ConditionKind → String
  | .comparison => "comparison"
  | .membership => "membership"
  | .group => "group"
  | .negation => "not"

inductive Connective where
  | and
  | or
deriving DecidableEq, Hashable

def Connective.name : Connective → String
  | .and => "AND"
  | .or => "OR"

/-- Names are read exactly as they are written, in upper case. -/
def Connective.ofName? (name : String) : Option Connective :=
  [Connective.and, Connective.or].find? (·.name = name)

end Criteria
