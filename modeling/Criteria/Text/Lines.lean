/-!
# Entries and lines

Cutting a delimited text into entries, and putting lines together.
-/

namespace Criteria.Text

/-- Removes one leading copy of `head`, if there is one. -/
def dropLead? : List Char → List Char → Option (List Char)
  | [], s => some s
  | _ :: _, [] => none
  | h :: head, c :: s => if h = c then dropLead? head s else none

theorem dropLead?_eq_some_iff {head s rest : List Char} :
    dropLead? head s = some rest ↔ s = head ++ rest := by
  induction head generalizing s with
  | nil => simp [dropLead?, eq_comm]
  | cons h head ih =>
    cases s with
    | nil => simp [dropLead?]
    | cons c s =>
      by_cases hc : h = c
      · subst hc; simp [dropLead?, ih]
      · simp [dropLead?, hc, Ne.symm hc]

/-- Cuts at each copy of the separator, from the left and without overlap. The number counts the
characters of a separator already found that are still to be skipped. -/
def cutFrom (separator : List Char) : Nat → List Char → List Char → List (List Char)
  | _, entry, [] => [entry.reverse]
  | skip + 1, entry, _ :: s => cutFrom separator skip entry s
  | 0, entry, c :: s =>
    if (dropLead? separator (c :: s)).isSome then
      entry.reverse :: cutFrom separator (separator.length - 1) [] s
    else cutFrom separator 0 (c :: entry) s

/-- The entries of a text delimited by a separator that is not empty. -/
def cut (separator s : String) : List String :=
  (cutFrom separator.toList 0 [] s.toList).map String.ofList

/-- The lines of a statement: empty ones are left out. -/
def lines (parts : List String) : String :=
  String.intercalate "\n" (parts.filter (· ≠ ""))

example : cut "," "a,,b" = ["a", "", "b"] := by decide
example : cut "--" "a---b" = ["a", "-b"] := by decide
example : cut "," "" = [""] := by decide
example : lines ["SELECT a", "", "FROM t"] = "SELECT a\nFROM t" := by decide

end Criteria.Text
