/-!
# Comparisons from left to right

Comparisons from left to right, up to the first parts that differ. Some parts cannot be compared,
and then the whole cannot, unless a part before them differs. The laws say that a comparison finds
no difference exactly when the two sides are equal.
-/

namespace Criteria

/-- Whether two things are equal, or nothing if they cannot be compared. -/
abbrev Comparison := Option Bool

namespace Comparison

variable {α : Type}

/-- Goes on to what comes next if no difference has been found. -/
def andThen (first rest : Comparison) : Comparison := if first = some true then rest else first

/-- A comparison that never fails. -/
def ofEq [DecidableEq α] (a b : α) : Comparison := some (decide (a = b))

/-- Compares what may be absent. -/
def options (compared : α → α → Comparison) : Option α → Option α → Comparison
  | some a, some b => compared a b
  | none, none => some true
  | _, _ => some false

/-- Compares the members that two lists have side by side, and then the lengths. -/
def lists (compared : α → α → Comparison) : List α → List α → Comparison
  | a :: as, b :: bs => (compared a b).andThen (lists compared as bs)
  | [], [] => some true
  | _, _ => some false

theorem andThen_eq_true_iff {first rest : Comparison} :
    first.andThen rest = some true ↔ first = some true ∧ rest = some true := by
  unfold andThen
  split
  · next h => simp [h]
  · next h => simp [h]

theorem ofEq_eq_true_iff [DecidableEq α] {a b : α} : ofEq a b = some true ↔ a = b := by
  simp [ofEq]

theorem options_eq_true_iff {compared : α → α → Comparison}
    (h : ∀ a b, compared a b = some true ↔ a = b) {x y : Option α} :
    options compared x y = some true ↔ x = y := by
  cases x <;> cases y <;> simp [options, h]

theorem lists_eq_true_iff {compared : α → α → Comparison}
    (h : ∀ a b, compared a b = some true ↔ a = b) {as bs : List α} :
    lists compared as bs = some true ↔ as = bs := by
  induction as generalizing bs with
  | nil => cases bs <;> simp [lists]
  | cons a as ih => cases bs <;> simp [lists, andThen_eq_true_iff, h, ih]

example : lists (fun a b => if a = 0 then none else ofEq a b) [1, 2, 0] [1, 3, 0] = some false := by
  decide
example : lists (fun a b => if a = 0 then none else ofEq a b) [1, 0] [1, 3, 5] = none := by decide

end Comparison
end Criteria
