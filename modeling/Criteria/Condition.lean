import Criteria.Command
import Criteria.Condition.Kind
import Criteria.Operator
import Criteria.Tree

/-!
# Conditions and their texts

Conditions: comparisons, memberships, groups and negations. A condition that has nothing to say
has the empty text, and the groups around it leave it out. Operators are looked up each time a
condition is written.
-/

namespace Criteria

inductive Condition where
  /-- The first parameter gives the column, and the first value if the operator takes one. -/
  | comparison (command : Command) (operator : String) (first : Parameter)
      (second : Option Parameter)
  | membership (command : Command) (column : Option String) (items : List Parameter)
      (negated : Bool)
  | group (command : Command) (connective : Connective) (conditions : List Condition)
  | negation (command : Command) (condition : Condition)

namespace Condition

def command : Condition → Command
  | comparison command _ _ _ => command
  | membership command _ _ _ => command
  | group command _ _ => command
  | negation command _ => command

def kind : Condition → ConditionKind
  | comparison _ _ _ _ => .comparison
  | membership _ _ _ _ => .membership
  | group _ _ _ => .group
  | negation _ _ => .negation

/-- What an operator compares the column with. The second value may be missing. -/
def compared (op : Operator) (first : Parameter) (second : Option Parameter) :
    List (Option Parameter) :=
  if op.arity = 0 then []
  else if op.arity = 1 then [some first]
  else [some first, second]

/-- A parameter that is to be used. -/
def required : Option Parameter → Except Error Parameter
  | some p => .ok p
  | none => .error .missingSecond

/-- The parameters that an operator compares the column with, none of them missing. -/
def comparands (op : Operator) (first : Parameter) (second : Option Parameter) :
    Except Error (List Parameter) :=
  (compared op first second).mapM required

/-- The text of a comparison. Its parameters are written from the left, up to one that is missing
or that has no text. -/
def comparisonText (table : OperatorTable) (shown : Parameter → Except Error String)
    (operator : String) (first : Parameter) (second : Option Parameter) :
    Except Error String := do
  let op ← table.get operator
  let texts ← (compared op first second).mapM fun p => required p >>= shown
  let inner ← op.render first.column texts
  return "(" ++ inner ++ ")"

/-- The membership of a column in a list of texts. -/
def listText (column : Option String) (texts : List String) (negated : Bool) : String :=
  if texts.isEmpty then ""
  else
    "(" ++ Report.nameText column ++ (if negated then " NOT IN (" else " IN (") ++
      String.intercalate "," texts ++ "))"

theorem listText_eq_empty_iff {column : Option String} {texts : List String} {negated : Bool} :
    listText column texts negated = "" ↔ texts = [] := by
  constructor
  · intro h
    cases texts with
    | nil => rfl
    | cons t rest => simp [listText, ← String.toList_inj] at h
  · rintro rfl
    rfl

def membershipText (shown : Parameter → Except Error String) (column : Option String)
    (items : List Parameter) (negated : Bool) : Except Error String := do
  return listText column (← items.mapM shown) negated

/-- Texts joined by a connective: a single one stands alone, and of none nothing is left. -/
def joined (connective : Connective) (texts : List String) : String :=
  match texts.filter (· ≠ "") with
  | [] => ""
  | [text] => text
  | texts => "(" ++ String.intercalate (" " ++ connective.name ++ " ") texts ++ ")"

theorem joined_eq_empty_iff {connective : Connective} {texts : List String} :
    joined connective texts = "" ↔ ∀ t ∈ texts, t = "" := by
  constructor
  · intro h
    rw [joined] at h
    cases hf : texts.filter (· ≠ "") with
    | nil => simpa using hf
    | cons t rest =>
      have ht : t ∈ texts.filter (· ≠ "") := hf ▸ List.mem_cons_self
      have hne : t ≠ "" := by simpa using (List.mem_filter.mp ht).2
      rw [hf] at h
      cases rest with
      | nil => exact absurd h hne
      | cons u rest => exact absurd (congrArg String.toList h) (by simp)
  · intro h
    have hf : texts.filter (· ≠ "") = [] := by simpa using h
    rw [joined, hf]

def negated (text : String) : String := if text = "" then "" else "(NOT " ++ text ++ ")"

theorem negated_eq_empty_iff {text : String} : negated text = "" ↔ text = "" := by
  constructor
  · intro h
    by_cases ht : text = ""
    · exact ht
    · simp [negated, ht, ← String.toList_inj] at h
  · rintro rfl
    rfl

mutual

/-- The text of a condition, where `shown` says how its parameters are written. -/
def textWith (table : OperatorTable) (shown : Parameter → Except Error String) :
    Condition → Except Error String
  | comparison _ operator first second => comparisonText table shown operator first second
  | membership _ column items negated => membershipText shown column items negated
  | group _ connective conditions => do
    return joined connective (← textsWith table shown conditions)
  | negation _ condition => do
    return negated (← textWith table shown condition)

def textsWith (table : OperatorTable) (shown : Parameter → Except Error String) :
    List Condition → Except Error (List String)
  | [] => .ok []
  | c :: rest => do
    let text ← textWith table shown c
    return text :: (← textsWith table shown rest)

end

def text (table : OperatorTable) (c : Condition) : Except Error String :=
  textWith table Parameter.text c

mutual

/-- The parameters behind the text of a condition, in their order in it. A comparison without
values has no parameters at all, and neither has its negation. -/
def parameters (table : OperatorTable) : Condition → Except Error (Option (List Parameter))
  | comparison _ operator first second => do
    let op ← table.get operator
    if op.arity = 0 then return none
    return some (← comparands op first second)
  | membership _ _ items _ => .ok (some items)
  | group _ _ conditions => do return some (← parametersOfAll table conditions)
  | negation _ condition => do
    if (← text table condition) = "" then return some []
    parameters table condition

/-- The parameters of the conditions that have a text. -/
def parametersOfAll (table : OperatorTable) : List Condition → Except Error (List Parameter)
  | [] => .ok []
  | c :: rest => do
    let own ← if (← text table c) = "" then pure [] else (·.getD []) <$> parameters table c
    return own ++ (← parametersOfAll table rest)

end

/-- What a condition gives as its parameters when it is asked alone. A comparison gives what it
has, also where a value is missing. A group or a negation writes its parts first, and so fails
where one is missing. -/
def arguments (table : OperatorTable) :
    Condition → Except Error (Option (List (Option Parameter)))
  | comparison _ operator first second => do
    let op ← table.get operator
    if op.arity = 0 then return none
    return some (compared op first second)
  | d => do return (← parameters table d).map (·.map some)

theorem textsWith_eq_mapM (table : OperatorTable) (shown : Parameter → Except Error String)
    (conditions : List Condition) :
    textsWith table shown conditions = conditions.mapM (textWith table shown) := by
  induction conditions with
  | nil => rfl
  | cons c rest ih => rw [textsWith, ih, List.mapM_cons]

end Condition
end Criteria
