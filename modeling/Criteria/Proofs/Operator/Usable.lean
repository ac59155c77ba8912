import Criteria.Proofs.Charge
import Criteria.Proofs.Condition.Comparands
import Criteria.Proofs.Template.Fields
import Mathlib.Data.List.Perm.Subperm

/-!
# Operators that can be used

Which of the operators that can be registered can also be used. Comparisons hold at most two
values, and a field of a template may ask for more than can be done with a text.
-/

namespace Criteria

open Build Template

namespace Operator

/-- The fields of the template. -/
def fields (op : Operator) : List Field := Template.fields (parse op.template.toList).pieces

/-- The names of the numbers from 1 on. -/
def numbersTo (count : Nat) : List String := (List.range count).map fun i => (i + 1).repr

theorem nodup_numbersTo (count : Nat) : (numbersTo count).Nodup := by
  rw [numbersTo, List.Nodup, List.pairwise_map]
  exact List.Pairwise.imp (fun differ same => differ (Nat.succ.inj (eq_of_repr_eq same)))
    List.nodup_range

/-- As many names as there are numbers, with all the numbers among them, are no others. -/
theorem areNumbersTo_iff {count : Nat} {names : List String} :
    areNumbersTo count names = true ↔ names.Perm (numbersTo count) := by
  have split : areNumbersTo count names = true ↔
      names.length = count ∧ ∀ i < count, (i + 1).repr ∈ names := by
    simp [areNumbersTo]
  rw [split]
  constructor
  · rintro ⟨length, all⟩
    have within : numbersTo count ⊆ names := by
      intro name mem
      obtain ⟨i, inside, rfl⟩ := List.mem_map.mp mem
      exact all i (List.mem_range.mp inside)
    exact ((List.subperm_of_subset (nodup_numbersTo count) within).perm_of_length_le
      (by simp [numbersTo, length])).symm
  · intro perm
    refine ⟨by simp [perm.length_eq, numbersTo], fun i inside => ?_⟩
    exact perm.mem_iff.mpr (List.mem_map.mpr ⟨i, List.mem_range.mpr inside, rfl⟩)

theorem exists_of_areNumbersTo {count : Nat} {names : List String}
    (h : areNumbersTo count names = true) {name : String} (mem : name ∈ names) :
    ∃ i, i < count ∧ name = (i + 1).repr := by
  obtain ⟨i, inside, rfl⟩ := List.mem_map.mp ((areNumbersTo_iff.mp h).mem_iff.mp mem)
  exact ⟨i, List.mem_range.mp inside, rfl⟩

/-- Once it is defined, an operator has a template that reads to its end, and the fields of it are
numbered up to the arity. -/
theorem numbered_of_define {name template : String} {arity : Int} {op : Operator}
    (h : define name template arity = .ok op) :
    (parse op.template.toList).fault = none ∧
      ∀ f ∈ op.fields, ∃ k, k ≤ arity.toNat ∧ f.name = k.repr.toList := by
  obtain ⟨slots, read, -, numbers, rfl⟩ := define_eq_ok_iff.mp h
  obtain ⟨sound, named⟩ := slots_ok read
  refine ⟨sound, fun f hf => ?_⟩
  have mem := (named (String.ofList f.name)).mpr ⟨f, hf, rfl⟩
  by_cases column : String.ofList f.name = "0"
  · exact ⟨0, Nat.zero_le _, by rw [← String.toList_ofList (l := f.name), column]; rfl⟩
  · have mem : String.ofList f.name ∈ slots.filter (· ≠ "0") := by simp [mem, column]
    obtain ⟨i, inside, number⟩ := exists_of_areNumbersTo numbers mem
    exact ⟨i + 1, inside, by rw [← number, String.toList_ofList]⟩

/-- A defined operator is written when each of its fields can be filled. -/
theorem render_ok_iff {name template : String} {arity : Int} {op : Operator}
    (h : define name template arity = .ok op) (small : arity.toNat ≤ countLimit) {column : String}
    {values : List String} (count : values.length = arity.toNat) :
    (∃ text, op.render column values = .ok text) ↔
      ∀ f ∈ op.fields, f.IsFilledBy (column :: values) := by
  obtain ⟨sound, numbered⟩ := numbered_of_define h
  have inside : ∀ f ∈ op.fields, ∃ k, f.name = k.repr.toList ∧
      k < (column :: values).length ∧ k ≤ countLimit := by
    intro f hf
    obtain ⟨k, bound, number⟩ := numbered f hf
    exact ⟨k, number, by rw [List.length_cons]; omega, by omega⟩
  refine Iff.trans ?_ (fill_ok_iff sound inside)
  rw [render]
  cases fill op.template (column :: values) <;> simp

end Operator

/-- What a comparison puts in at a field can be set there, whatever the column is called and
however the command names its values and writes them. -/
def Template.Field.Fits (count : Nat) (f : Field) : Prop :=
  ∀ (c : Command) (first : Nat) (column : String), Text.isBlank column = false →
    f.IsFilledBy (column :: (c.namesFrom first count).map c.dialect.placeholder)

theorem fits_iff_of_isFlat {f : Field} {k count : Nat} (name : f.name = k.repr.toList)
    (inside : k ≤ count) (small : count ≤ countLimit) (flat : f.isFlat = true) :
    f.Fits count ↔ f.isSettable = true := by
  have filled : ∀ (c : Command) (first : Nat) (column : String),
      f.IsFilledBy (column :: (c.namesFrom first count).map c.dialect.placeholder) ↔
        f.isSettable = true := by
    intro c first column
    have room : k < (column :: (c.namesFrom first count).map c.dialect.placeholder).length := by
      simp [Command.namesFrom]
      omega
    exact isFilledBy_iff_of_isFlat name room (Nat.le_trans inside small) flat
  constructor
  · intro fits
    exact (filled ..).mp (fits ⟨0, ⟨0, .postgres⟩, "p"⟩ 0 "x" (by decide))
  · intro settable c first column _
    exact (filled ..).mpr settable

namespace Condition

/-- An operator that takes as many values as there are compares the column with all of them. -/
theorem comparands_of_bound {op : Operator} {c : Command} {n : Nat} {values : List Value}
    {first : Parameter} {second : Option Parameter} (bound : Bound c n values first second)
    (count : (values.length : Int) = op.arity) :
    ∃ given, comparands op first second = .ok given ∧
      given.mapM Parameter.text =
        .ok ((c.namesFrom n values.length).map c.dialect.placeholder) := by
  simp only [comparands_eq_ok_iff]
  rcases bound with ⟨rfl, -, rfl⟩ | ⟨rfl, numbers⟩
  · have bare : op.arity = 0 := count.symm
    exact ⟨[], by simp [compared, bare], rfl⟩
  · refine ⟨first :: second.toList, ?_, ?_⟩
    · cases second with
      | none =>
        have arity : op.arity = 1 := by simpa using count.symm
        simp [compared, arity]
      | some second =>
        have arity : op.arity = 2 := by simpa using count.symm
        simp [compared, arity]
    · rw [List.length_map]
      exact Command.texts_of_numbers numbers

/-- A comparison that has been made has its parameters, and it has a text if its operator can be
written with their placeholders. -/
theorem written_of_compare {table : OperatorTable} {c : Command} {column operator : String}
    {op : Operator} {values : List Value} {type : Option DataType} {d : Condition} {s t : Supply}
    (found : table.get operator = .ok op) (again : table.get op.name = .ok op)
    (ran : (compare table c (some column) operator values type).run.run s = (.ok d, t)) :
    ((∃ text, d.text table = .ok text) ↔ ∃ inner, op.render column
        ((c.namesFrom s.next values.length).map c.dialect.placeholder) = .ok inner) ∧
      ∃ given, d.parameters table = .ok given := by
  obtain ⟨op', first, second, found', count, made, own, bound, -⟩ := compare_ok ran
  obtain rfl : op = op' := Except.ok.inj (found.symm.trans found')
  obtain ⟨op', again', -, rfl⟩ := ofParameters_ok made
  obtain rfl : op = op' := Except.ok.inj (again.symm.trans again')
  obtain rfl := Option.some.inj own
  obtain ⟨given, taken, texts⟩ := comparands_of_bound bound count
  constructor
  · rw [text, textWith, comparisonText_of_comparands again taken, texts, ok_bind]
    cases op.render first.column ((c.namesFrom s.next values.length).map c.dialect.placeholder) with
    | error e => simp
    | ok inner => simp [ok_bind, pure, Except.pure]
  · simp only [parameters, again, taken, ok_bind]
    by_cases bare : op.arity = 0
    · exact ⟨none, by rw [if_pos bare]; rfl⟩
    · exact ⟨some given, by rw [if_neg bare]; rfl⟩

end Condition

namespace OperatorTable

/-- Whatever column is compared with as many values, a condition comes back that has a text and
parameters. -/
def Usable (table : OperatorTable) (name : String) (count : Int) : Prop :=
  ∀ (c : Command) (column : String) (values : List Value) (type : Option DataType) (s : Supply),
    Text.isBlank column = false → (values.length : Int) = count →
      ∃ d t text given,
        (Condition.compare table c (some column) name values type).run.run s = (.ok d, t) ∧
          d.text table = .ok text ∧ d.parameters table = .ok given

variable {table : OperatorTable} {name template : String} {arity : Int} {op : Operator}

/-- A comparison holds two values at most. -/
theorem le_two_of_usable (counted : 0 ≤ arity) (usable : table.Usable name arity) :
    arity ≤ 2 := by
  obtain ⟨d, t, -, -, ran, -⟩ := usable ⟨0, ⟨0, .postgres⟩, "p"⟩ "x"
    (List.replicate arity.toNat .null) none ⟨0, 0⟩ (by decide)
    (by rw [List.length_replicate, Int.toNat_of_nonneg counted])
  obtain ⟨op, first, second, -, -, -, -, bound, -⟩ := Condition.compare_ok ran
  have few : (List.replicate arity.toNat Value.null).length ≤ 2 := by
    rcases bound with ⟨noValues, -⟩ | ⟨both, -⟩
    · simp [noValues]
    · rw [both]
      cases second <;> simp
  rw [List.length_replicate] at few
  omega

/-- What is filed under a name can be used if it takes at most two values and all of its fields can
be filled with what comparisons put in. -/
theorem usable_iff_fits (found : table.find? name = some op)
    (defined : Operator.define name template arity = .ok op) (counted : 0 ≤ arity) :
    table.Usable name arity ↔ arity ≤ 2 ∧ ∀ f ∈ op.fields, f.Fits arity.toNat := by
  obtain rfl := Operator.eq_of_define defined
  have known : table.get name = .ok ⟨name, template, arity⟩ := get_eq_ok_iff.mpr found
  have room : 2 ≤ countLimit := by decide
  constructor
  · intro usable
    have few := le_two_of_usable counted usable
    refine ⟨few, fun f hf c first column visible => ?_⟩
    obtain ⟨d, t, text, -, ran, written, -⟩ := usable c column (List.replicate arity.toNat .null)
      none ⟨first, 0⟩ visible (by rw [List.length_replicate, Int.toNat_of_nonneg counted])
    have rendered := (Condition.written_of_compare known known ran).1.mp ⟨text, written⟩
    rw [List.length_replicate] at rendered
    have count : ((c.namesFrom first arity.toNat).map c.dialect.placeholder).length =
        arity.toNat := by simp [Command.namesFrom]
    exact (Operator.render_ok_iff defined (by omega) count).mp rendered f hf
  · rintro ⟨few, fits⟩ c column values type s visible count
    obtain ⟨d, t, ran, -, -⟩ :=
      Condition.charges_compare known known count few ⟨column, rfl, visible⟩ type s
    obtain ⟨written, given, parameters⟩ := Condition.written_of_compare known known ran
    have length : ((c.namesFrom s.next values.length).map c.dialect.placeholder).length =
        arity.toNat := by
      simp [Command.namesFrom]
      omega
    have exact : values.length = arity.toNat := by omega
    have rendered := (Operator.render_ok_iff defined (by omega) length).mpr
      fun f hf => exact ▸ fits f hf c s.next column visible
    obtain ⟨text, hd⟩ := written.mpr rendered
    exact ⟨d, t, text, given, ran, hd, parameters⟩

theorem fits_iff (defined : Operator.define name template arity = .ok op) (few : arity ≤ 2)
    {f : Field} (mem : f ∈ op.fields) :
    f.Fits arity.toNat ↔
      if f.isFlat then f.isSettable = true else f.Fits arity.toNat := by
  obtain ⟨k, inside, number⟩ := (Operator.numbered_of_define defined).2 f mem
  have small : arity.toNat ≤ countLimit := Nat.le_trans (by omega) (by decide : 2 ≤ countLimit)
  by_cases flat : f.isFlat = true
  · rw [if_pos flat]
    exact fits_iff_of_isFlat number inside small flat
  · rw [if_neg flat]

/-- What is filed under a name can be used if it takes at most two values and each of its fields can
be filled. For a field without fields of its own that can be told from the field. -/
theorem usable_of_find? (found : table.find? name = some op)
    (defined : Operator.define name template arity = .ok op) (counted : 0 ≤ arity) :
    table.Usable name arity ↔ arity ≤ 2 ∧ ∀ f ∈ op.fields,
      if f.isFlat then f.isSettable = true else f.Fits arity.toNat := by
  rw [usable_iff_fits found defined counted]
  exact and_congr_right fun few => forall₂_congr fun f mem => fits_iff defined few mem

/-- What has been registered can be used under the same condition. -/
theorem usable_iff {operators : OperatorTable}
    (registered : table.register name template arity = .ok (op, operators))
    (counted : 0 ≤ arity) :
    operators.Usable name arity ↔ arity ≤ 2 ∧ ∀ f ∈ op.fields,
      if f.isFlat then f.isSettable = true else f.Fits arity.toNat := by
  obtain ⟨defined, rfl⟩ := register_ok registered
  exact usable_of_find? (by rw [NameMap.find?_put, if_pos rfl]) defined counted

end OperatorTable

namespace Operator

/-- None of the fields has fields of its own, and a text can be set in each of them. -/
def isPlain (op : Operator) : Bool := op.fields.all fun f => f.isFlat && f.isSettable

theorem settable_of_isPlain {op : Operator} (plain : op.isPlain = true) {count : Nat} :
    ∀ f ∈ op.fields, if f.isFlat then f.isSettable = true else f.Fits count := by
  intro f hf
  obtain ⟨flat, settable⟩ := Bool.and_eq_true_iff.mp (List.all_eq_true.mp plain f hf)
  rwa [if_pos flat]

end Operator

namespace OperatorTable

theorem builtIn_plain : ∀ entry ∈ builtIn.entries,
    Operator.define entry.1 entry.2.template entry.2.arity = .ok entry.2 ∧
      entry.2.isPlain = true := by
  decide +kernel

/-- Every built-in operator can be used. -/
theorem usable_builtIn {name : String} {op : Operator} (known : builtIn.find? name = some op) :
    builtIn.Usable name op.arity := by
  obtain ⟨defined, plain⟩ : Operator.define name op.template op.arity = .ok op ∧
      op.isPlain = true := builtIn_plain _ (mem_entries_of_find? known)
  have arity : op.arity = 0 ∨ op.arity = 1 ∨ op.arity = 2 := takesUpToTwo_builtIn name op known
  exact (usable_of_find? known defined (by omega)).mpr
    ⟨by omega, Operator.settable_of_isPlain plain⟩

end OperatorTable

namespace Sample

/-! Operators that can be registered. The second takes one value too many, the third asks for its
value as a number, and the last asks inside a specification for a value that it does not take. -/

def clipped : Operator := ⟨"CLIPPED", "\x7b0\x7d = \x7b1!s:.9\x7d", 1⟩

def anyOf : Operator := ⟨"ANY_OF", "\x7b0\x7d IN (\x7b1\x7d, \x7b2\x7d, \x7b3\x7d)", 3⟩

def asNumber : Operator := ⟨"AS_NUMBER", "\x7b0\x7d = \x7b1:d\x7d", 1⟩

def wide : Operator := ⟨"WIDE", "\x7b0:\x7b1\x7d\x7d", 0⟩

def extended (op : Operator) : OperatorTable := OperatorTable.builtIn.put op.name op

theorem registered_extended : ∀ op ∈ [clipped, anyOf, asNumber, wide],
    OperatorTable.builtIn.register op.name op.template op.arity = .ok (op, extended op) := by
  have defined : ∀ op ∈ [clipped, anyOf, asNumber, wide],
      Operator.define op.name op.template op.arity = .ok op := by decide +kernel
  intro op mem
  rw [OperatorTable.register, defined op mem]
  rfl

end Sample

namespace OperatorTable

open Sample

theorem usable_iff_clipped :
    builtIn.register clipped.name clipped.template clipped.arity = .ok (clipped, extended clipped) ∧
      (extended clipped).Usable clipped.name clipped.arity := by
  have registered := registered_extended clipped (by simp)
  have plain : clipped.isPlain = true := by decide +kernel
  exact ⟨registered, (usable_iff registered (by decide)).mpr
    ⟨by decide, Operator.settable_of_isPlain plain⟩⟩

/-- Operators are registered that cannot be used: for the number of their values, for what a field
asks of a text, or for what a field inside a specification stands for. -/
theorem not_usable :
    (¬ ∀ (table operators : OperatorTable) (name template : String) (arity : Int) (op : Operator),
      table.register name template arity = .ok (op, operators) → 0 ≤ arity →
        operators.Usable name arity) ∧
      (¬ ∀ (table operators : OperatorTable) (name template : String) (arity : Int) (op : Operator),
        table.register name template arity = .ok (op, operators) → 0 ≤ arity → arity ≤ 2 →
          operators.Usable name arity) ∧
      ¬ ∀ (table operators : OperatorTable) (name template : String) (arity : Int) (op : Operator),
        table.register name template arity = .ok (op, operators) → 0 ≤ arity → arity ≤ 2 →
          (∀ f ∈ op.fields, f.isFlat = true → f.isSettable = true) →
            operators.Usable name arity := by
  refine ⟨?_, ?_, ?_⟩
  · intro usable
    have used := usable builtIn _ _ _ _ _ (registered_extended anyOf (by simp)) (by decide)
    exact absurd (le_two_of_usable (by decide) used) (by decide)
  · intro usable
    have registered := registered_extended asNumber (by simp)
    have used := usable builtIn _ _ _ _ _ registered (by decide) (by decide)
    have settable := ((usable_of_find? rfl (register_ok registered).1 (by decide)).mp used).2
      ⟨['1'], none, ['d']⟩ (.tail _ List.mem_cons_self)
    rw [if_pos (by decide)] at settable
    exact absurd settable (by decide)
  · intro usable
    have registered := registered_extended wide (by simp)
    have used := usable builtIn _ _ _ _ _ registered (by decide) (by decide) (by decide)
    have fits := ((usable_of_find? rfl (register_ok registered).1 (by decide)).mp used).2
      ⟨['0'], none, ['\x7b', '1', '\x7d']⟩ List.mem_cons_self
    rw [if_neg (by decide)] at fits
    obtain ⟨out, filled⟩ := fits ⟨0, ⟨0, .postgres⟩, "p"⟩ 0 "age" (by decide)
    cases filled

end OperatorTable
end Criteria
