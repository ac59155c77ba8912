import Criteria.Operator
import Criteria.Proofs.Template.Plain

/-!
# The built-in operators

How the built-in operators read: the column, words that depend on the operator, and as many values
as the operator takes, the second one behind a joint.
-/

namespace Criteria.OperatorTable

open Template (Part)

/-- The words of the operators with so many values. -/
def words (arity : Int) : List String :=
  if arity = 0 then [" IS NULL", " IS NOT NULL"]
  else if arity = 1 then [" = ", " <> ", " > ", " >= ", " < ", " <= ", " LIKE ", " NOT LIKE "]
  else [" BETWEEN ", " NOT BETWEEN "]

/-- What stands between two values. -/
def joint : String := " AND "

/-- What stands behind the column. -/
def behindColumn (word : String) : List String → String
  | [] => word
  | [v] => word ++ v
  | v :: w :: _ => word ++ v ++ joint ++ w

/-- The template of a comparison with so many values and a given word. -/
def parts (word : String) : Nat → List Part
  | 0 => .slot 0 :: word.toList.map .char
  | 1 => .slot 0 :: word.toList.map .char ++ [.slot 1]
  | _ => .slot 0 :: word.toList.map .char ++ .slot 1 :: joint.toList.map .char ++ [.slot 2]

/-- The name stands for a built-in operator, which nobody has replaced. -/
def IsBuiltIn (table : OperatorTable) (name : String) : Prop :=
  ∃ op, builtIn.find? name = some op ∧ table.find? name = some op

theorem isBuiltIn_of_mem {name : String} (known : name ∈ builtIn.names) :
    builtIn.IsBuiltIn name := by
  obtain ⟨op, found⟩ := Option.isSome_iff_exists.mp (NameMap.mem_names_iff_find?_isSome.mp known)
  exact ⟨op, found, found⟩

theorem get_eq_ok_iff {table : OperatorTable} {name : String} {op : Operator} :
    table.get name = .ok op ↔ table.find? name = some op := by
  unfold get
  cases table.find? name <;> simp

/-- An entry is filed under its own name, takes at most two values, and reads as one of the words
says. -/
def IsWorded (entry : String × Operator) : Prop :=
  entry.2.name = entry.1 ∧ (entry.2.arity = 0 ∨ entry.2.arity = 1 ∨ entry.2.arity = 2) ∧
    ∃ w ∈ words entry.2.arity, Template.parse entry.2.template.toList =
      ⟨(parts w entry.2.arity.toNat).map Part.piece, none⟩

instance (entry : String × Operator) : Decidable (IsWorded entry) :=
  inferInstanceAs (Decidable (_ ∧ _ ∧ _))

theorem builtIn_worded : ∀ entry ∈ builtIn.entries, IsWorded entry := by decide +kernel

theorem mem_entries_of_find? {table : OperatorTable} {name : String} {op : Operator}
    (known : table.find? name = some op) : (name, op) ∈ table.entries := by
  obtain ⟨before, behind, entries, -⟩ := List.lookup_eq_some_iff.mp known
  rw [entries]
  exact List.mem_append_right before List.mem_cons_self

theorem isWorded_of_find? {name : String} {op : Operator} (known : builtIn.find? name = some op) :
    IsWorded (name, op) :=
  builtIn_worded _ (mem_entries_of_find? known)

theorem name_of_find? {name : String} {op : Operator} (known : builtIn.find? name = some op) :
    op.name = name :=
  (isWorded_of_find? known).1

theorem name_of_get {table : OperatorTable} {name : String} {op : Operator}
    (builtIn : table.IsBuiltIn name) (found : table.get name = .ok op) : op.name = name := by
  obtain ⟨op', known, kept⟩ := builtIn
  obtain rfl : op' = op := Option.some.inj (kept.symm.trans (get_eq_ok_iff.mp found))
  exact name_of_find? known

theorem flatMap_filled_chars (args : List (List Char)) (s : List Char) :
    (s.map Part.char).flatMap (Part.filled args) = s := by
  induction s with
  | nil => rfl
  | cons c s ih => simp [Part.filled, ih]

/-- What a template of the given parts is filled to. -/
theorem filled_parts (word column : String) (values : List String) (few : values.length ≤ 2) :
    (parts word values.length).flatMap (Part.filled ((column :: values).map String.toList)) =
      (column ++ behindColumn word values).toList := by
  match values, few with
  | [], _ => simp [parts, behindColumn, flatMap_filled_chars, Part.filled]
  | [v], _ => simp [parts, behindColumn, flatMap_filled_chars, Part.filled]
  | [v, w], _ => simp [parts, behindColumn, flatMap_filled_chars, Part.filled]
  | _ :: _ :: _ :: _, few => simp at few

theorem slot_mem_parts {word : String} {n k : Nat} (few : n ≤ 2)
    (h : .slot k ∈ parts word n) : k < n + 1 := by
  match n, few with
  | 0, _ => simpa [parts] using h
  | 1, _ =>
    have : k = 0 ∨ k = 1 := by simpa [parts] using h
    omega
  | 2, _ =>
    have : k = 0 ∨ k = 1 ∨ k = 2 := by simpa [parts] using h
    omega

/-- A built-in operator puts one of its words behind the column, and the values behind that. -/
theorem render_builtIn {name : String} {op : Operator} (known : builtIn.find? name = some op) :
    ∃ word ∈ words op.arity, ∀ (column : String) (values : List String),
      (values.length : Int) = op.arity →
        op.render column values = .ok (column ++ behindColumn word values) := by
  obtain ⟨-, arity, word, hword, parsed⟩ := isWorded_of_find? known
  refine ⟨word, hword, ?_⟩
  intro column values count
  have few : values.length ≤ 2 := by
    have arity : op.arity = 0 ∨ op.arity = 1 ∨ op.arity = 2 := arity
    omega
  have exact : op.arity.toNat = values.length := by omega
  have slots : ∀ k, .slot k ∈ parts word values.length →
      k < (column :: values).length ∧ k ≤ Template.countLimit := by
    intro k hk
    have := slot_mem_parts few hk
    have room : 3 ≤ Template.countLimit := by decide
    rw [List.length_cons]
    omega
  have filled := Template.fill_plain (exact ▸ parsed) slots
  rw [filled_parts word column values few, String.ofList_toList] at filled
  rw [Operator.render, filled]

end Criteria.OperatorTable
