import Criteria.Proofs.Operator.Usable
import Mathlib.Data.Finset.Card
import Mathlib.Data.Finset.Image

/-!
# Accepted templates

Which template is accepted for which arity, and what is wrong with the others. The names of the
fields are compared with those of the numbers as texts, each of them once, so that no other spelling
of a number will do. A negative arity asks for no value, like zero, and is then not the number of
values that it is meant to be.
-/

namespace Criteria

namespace Template

/-- The names of the fields of a template. Names inside a specification do not count. -/
def fieldNames (template : String) : Finset String :=
  ((fields (parse template.toList).pieces).map fun f => String.ofList f.name).toFinset

/-- The names of the fields that stand for values. -/
def valueNames (template : String) : Finset String := (fieldNames template).erase "0"

variable {template : String}

theorem mem_fieldNames {name : String} : name ∈ fieldNames template ↔
    ∃ f ∈ fields (parse template.toList).pieces, String.ofList f.name = name := by
  simp [fieldNames]

theorem slots_of_fault {fault : Fault} (broken : (parse template.toList).fault = some fault) :
    slots template = .error fault := by
  rcases read : parse template.toList with ⟨pieces, found⟩
  rw [read] at broken
  cases broken
  rw [slots, read]

/-- What can be read to its end has the names of its fields for slots, each of them once. -/
theorem exists_slots (sound : (parse template.toList).fault = none) :
    ∃ names, slots template = .ok names ∧ names.Nodup ∧ names.toFinset = fieldNames template := by
  have found : slots template = .ok (distinctNames (parse template.toList).pieces) := by
    rcases read : parse template.toList with ⟨pieces, fault⟩
    rw [read] at sound
    cases sound
    rw [slots, read]
  refine ⟨_, found, nodup_distinctNamesFrom List.nodup_nil, Finset.ext fun name => ?_⟩
  rw [List.mem_toFinset, (slots_ok found).2, mem_fieldNames]

end Template

namespace Operator

open Template

/-- The names of the numbers from zero to the last one. -/
def numbersThrough (last : Nat) : Finset String := (Finset.range (last + 1)).image Nat.repr

theorem mem_numbersThrough {last : Nat} {name : String} :
    name ∈ numbersThrough last ↔ ∃ i ≤ last, i.repr = name := by
  simp only [numbersThrough, Finset.mem_image, Finset.mem_range, Nat.lt_succ_iff]

theorem card_erase_numbersThrough (last : Nat) :
    ((numbersThrough last).erase "0").card = last := by
  have column : "0" ∈ numbersThrough last := mem_numbersThrough.mpr ⟨0, Nat.zero_le _, rfl⟩
  rw [Finset.card_erase_of_mem column, numbersThrough,
    Finset.card_image_of_injective _ fun _ _ => eq_of_repr_eq, Finset.card_range,
    Nat.add_sub_cancel]

/-- To ask for the column and for the numbers of the values is to ask for all numbers from zero. -/
theorem perm_numbersTo_iff {names : List String} (distinct : names.Nodup) {last : Nat} :
    "0" ∈ names ∧ (names.filter (· ≠ "0")).Perm (numbersTo last) ↔
      names.toFinset = numbersThrough last := by
  rw [List.perm_ext_iff_of_nodup (distinct.filter _) (nodup_numbersTo last), Finset.ext_iff]
  simp only [List.mem_toFinset, List.mem_filter, decide_eq_true_eq, mem_numbersThrough]
  constructor
  · rintro ⟨column, values⟩ name
    by_cases zero : name = "0"
    · subst zero
      exact iff_of_true column ⟨0, Nat.zero_le _, rfl⟩
    · rw [← and_iff_left (a := name ∈ names) zero, values, numbersTo, List.mem_map]
      constructor
      · rintro ⟨i, inside, rfl⟩
        exact ⟨i + 1, List.mem_range.mp inside, rfl⟩
      · rintro ⟨i, inside, rfl⟩
        cases i with
        | zero => exact absurd rfl zero
        | succ i => exact ⟨i, List.mem_range.mpr inside, rfl⟩
  · intro all
    refine ⟨(all "0").mpr ⟨0, Nat.zero_le _, rfl⟩, fun name => ?_⟩
    rw [all, numbersTo, List.mem_map]
    constructor
    · rintro ⟨⟨i, inside, rfl⟩, value⟩
      cases i with
      | zero => exact absurd rfl value
      | succ i => exact ⟨i, List.mem_range.mpr inside, rfl⟩
    · rintro ⟨i, inside, rfl⟩
      exact ⟨⟨i + 1, List.mem_range.mp inside, rfl⟩, fun zero => by
        cases eq_of_repr_eq (n := 0) zero⟩

/-- The operator is not defined, and the failure is reported with these details. -/
def Refuses (name template : String) (arity : Int) (e : Error) (details : List (String × Detail)) :
    Prop :=
  define name template arity = .error e ∧
    ∃ r, e.report? = some r ∧ r.kind = .operatorDefinition ∧ r.details = .ofList details

/-- A template that can be read needs the column first, and then the right numbers. -/
theorem define_of_slots {template : String} {names : List String}
    (read : slots template = .ok names) (name : String) (arity : Int) :
    define name template arity =
      if "0" ∉ names then .error (.noColumnSlot name template)
      else if areNumbersTo arity.toNat (names.filter (· ≠ "0")) = true then
        .ok ⟨name, template, arity⟩
      else .error
        (.showing arity (.wrongSlots name template arity (Text.sorted (names.filter (· ≠ "0"))))) := by
  unfold define
  simp only [read]
  by_cases column : "0" ∈ names
  · simp only [column, not_true_eq_false, if_false]
    rfl
  · simp only [column, not_false_eq_true, if_true]
    rfl

/-- An operator is defined exactly if its template can be read to the end and the fields are named
as the numbers from zero to the arity are. -/
theorem define_ok_iff_fieldNames {name template : String} {arity : Int} {op : Operator} :
    define name template arity = .ok op ↔ op = ⟨name, template, arity⟩ ∧
      (parse template.toList).fault = none ∧
        fieldNames template = numbersThrough arity.toNat := by
  rw [define_eq_ok_iff]
  constructor
  · rintro ⟨names, read, column, numbers, made⟩
    have sound := (slots_ok read).1
    obtain ⟨names', read', distinct, same⟩ := exists_slots sound
    obtain rfl : names = names' := Except.ok.inj (read.symm.trans read')
    exact ⟨made, sound, same ▸
      (perm_numbersTo_iff distinct).mp ⟨column, areNumbersTo_iff.mp numbers⟩⟩
  · rintro ⟨made, sound, all⟩
    obtain ⟨names, read, distinct, same⟩ := exists_slots sound
    obtain ⟨column, numbers⟩ := (perm_numbersTo_iff distinct).mpr (same.trans all)
    exact ⟨names, read, column, areNumbersTo_iff.mpr numbers, made⟩

/-- What is accepted has as many values as its arity says, unless this is negative. -/
theorem card_valueNames_of_define {name template : String} {arity : Int} {op : Operator}
    (defined : define name template arity = .ok op) :
    (valueNames template).card = arity.toNat := by
  rw [valueNames, (define_ok_iff_fieldNames.mp defined).2.2, card_erase_numbersThrough]

/-- Which operators are accepted, and what is wrong with the others: the text of the template, else
the column that is missing, else the names of the values, which are reported in order beside the arity,
if this can be written. -/
theorem acceptance_of_define (name template : String) (arity : Int) :
    (∀ op, define name template arity = .ok op ↔ op = ⟨name, template, arity⟩ ∧
      (parse template.toList).fault = none ∧
        fieldNames template = numbersThrough arity.toNat) ∧
    (∀ fault, (parse template.toList).fault = some fault →
      define name template arity = .error (.template fault)) ∧
    ((parse template.toList).fault = none → "0" ∉ fieldNames template →
      Refuses name template arity (.noColumnSlot name template)
        [("operator", .text name), ("template", .text template)]) ∧
    ((parse template.toList).fault = none → "0" ∈ fieldNames template →
      fieldNames template ≠ numbersThrough arity.toNat →
        ∃ names : List String, names.Pairwise (· < ·) ∧ names.toFinset = valueNames template ∧
          if Numeral.Short arity.natAbs then
            Refuses name template arity (.wrongSlots name template arity names)
              [("operator", .text name), ("template", .text template), ("arity", .int arity),
                ("slots", .texts names)]
          else define name template arity = .error .longNumber) ∧
    ∀ op, define name template arity = .ok op →
      ((valueNames template).card = arity ↔ 0 ≤ arity) := by
  refine ⟨fun _ => define_ok_iff_fieldNames, fun fault broken => ?malformed,
    fun sound missing => ?columnless, fun sound column differ => ?misnumbered,
    fun op defined => ?counted⟩
  case malformed =>
    unfold define
    simp only [slots_of_fault broken]
    rfl
  case columnless =>
    obtain ⟨names, read, -, same⟩ := exists_slots sound
    rw [← same, List.mem_toFinset] at missing
    exact ⟨by rw [define_of_slots read, if_pos missing], _, rfl, rfl, rfl⟩
  case misnumbered =>
    obtain ⟨names, read, distinct, same⟩ := exists_slots sound
    rw [← same] at differ
    rw [← same, List.mem_toFinset] at column
    have other : ¬ areNumbersTo arity.toNat (names.filter (· ≠ "0")) = true := fun numbers =>
      differ ((perm_numbersTo_iff distinct).mp ⟨column, areNumbersTo_iff.mp numbers⟩)
    have failed : define name template arity = .error (.showing arity
        (.wrongSlots name template arity (Text.sorted (names.filter (· ≠ "0"))))) := by
      rw [define_of_slots read, if_neg (not_not.mpr column), if_neg other]
    refine ⟨Text.sorted (names.filter (· ≠ "0")), Text.increasing_sorted (distinct.filter _), ?_,
      ?_⟩
    · ext value
      simp [valueNames, ← same, and_comm]
    · rw [Error.showing] at failed
      by_cases short : Numeral.Short arity.natAbs
      · rw [if_pos short] at failed
        rw [if_pos short]
        exact ⟨failed, _, rfl, rfl, rfl⟩
      · rw [if_neg short] at failed
        rwa [if_neg short]
  case counted =>
    rw [card_valueNames_of_define defined]
    omega

/-- A number spelled in another way is none, and names are listed in the order of texts. A negative
arity is accepted. -/
theorem acceptance_of_define_spellings :
    (∃ names : List String, names.Pairwise (· < ·) ∧
      names.toFinset = valueNames "\x7b0\x7d \x7b2\x7d \x7b10\x7d \x7b01\x7d" ∧
      Refuses "X" "\x7b0\x7d \x7b2\x7d \x7b10\x7d \x7b01\x7d" 3
        (.wrongSlots "X" "\x7b0\x7d \x7b2\x7d \x7b10\x7d \x7b01\x7d" 3 names)
        [("operator", .text "X"),
          ("template", .text "\x7b0\x7d \x7b2\x7d \x7b10\x7d \x7b01\x7d"), ("arity", .int 3),
          ("slots", .texts names)]) ∧
    Refuses "X" "\x7b00\x7d" 0 (.noColumnSlot "X" "\x7b00\x7d")
      [("operator", .text "X"), ("template", .text "\x7b00\x7d")] ∧
    define "X" "\x7b0" 0 = .error (.template .unclosedField) ∧
    define "X" "\x7b0\x7d" (-1) = .ok ⟨"X", "\x7b0\x7d", -1⟩ := by
  obtain ⟨-, -, -, misnumbered, -⟩ :=
    acceptance_of_define "X" "\x7b0\x7d \x7b2\x7d \x7b10\x7d \x7b01\x7d" 3
  obtain ⟨-, -, columnless, -⟩ := acceptance_of_define "X" "\x7b00\x7d" 0
  obtain ⟨-, malformed, -⟩ := acceptance_of_define "X" "\x7b0" 0
  obtain ⟨accepts, -⟩ := acceptance_of_define "X" "\x7b0\x7d" (-1)
  obtain ⟨names, increasing, same, refused⟩ :=
    misnumbered (by decide +kernel) (by decide +kernel) (by decide +kernel)
  exact ⟨⟨names, increasing, same, (if_pos (by decide)).mp refused⟩,
    columnless (by decide +kernel) (by decide +kernel), malformed _ (by decide +kernel),
    (accepts _).mpr ⟨rfl, by decide +kernel, by decide +kernel⟩⟩

/-- An operator can be defined whose arity is not the number of its values. -/
theorem not_counted_of_define :
    ¬ ∀ (name template : String) (arity : Int) (op : Operator),
      define name template arity = .ok op → (valueNames template).card = arity := by
  intro counted
  have values : (valueNames "\x7b0\x7d").card = 0 := by decide +kernel
  have accepted : define "X" "\x7b0\x7d" (-1) = .ok ⟨"X", "\x7b0\x7d", -1⟩ := by decide +kernel
  have same := counted _ _ _ _ accepted
  rw [values] at same
  exact absurd same (by decide)

end Operator
end Criteria
