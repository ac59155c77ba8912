import Criteria.Proofs.Operator.Entries

/-!
# Operators of plain slots

Operators whose templates are made of text and plain slots. Once defined, such an operator has slots
for the column and for each of its values and no others, so that it reads as its template with the
column and the values in their places.
-/

namespace Criteria

open Template (Part Piece Field parse)

namespace Template

/-- The template is made of text, of doubled braces and of fields that give a number. -/
def IsPlain (template : String) : Prop :=
  ∃ parts : List Part, parse template.toList = ⟨parts.map Part.piece, none⟩

/-- The parts with the texts in the places of the slots. -/
def substituted (parts : List Part) (texts : List String) : String :=
  String.ofList (parts.flatMap (Part.filled (texts.map String.toList)))

theorem mem_fields_parts {parts : List Part} {f : Field} :
    f ∈ fields (parts.map Part.piece) ↔ ∃ k, .slot k ∈ parts ∧ f = ⟨k.repr.toList, none, []⟩ := by
  induction parts with
  | nil => simp [fields]
  | cons part parts ih =>
    cases part with
    | char c => simpa [fields, Part.piece] using ih
    | slot k =>
      simp only [List.map_cons, Part.piece, fields, List.mem_cons, ih, Part.slot.injEq]
      constructor
      · rintro (rfl | ⟨n, mem, rfl⟩)
        · exact ⟨k, .inl rfl, rfl⟩
        · exact ⟨n, .inr mem, rfl⟩
      · rintro ⟨n, rfl | mem, rfl⟩
        · exact .inl rfl
        · exact .inr ⟨n, mem, rfl⟩

/-- The names of the slots are their numbers. -/
theorem repr_mem_slots {template : String} {parts : List Part} {names : List String}
    (read : parse template.toList = ⟨parts.map Part.piece, none⟩)
    (h : slots template = .ok names) (k : Nat) : k.repr ∈ names ↔ .slot k ∈ parts := by
  obtain ⟨-, named⟩ := slots_ok h
  rw [named, read]
  simp only [mem_fields_parts]
  constructor
  · rintro ⟨_, ⟨n, mem, rfl⟩, same⟩
    rw [String.ofList_toList] at same
    exact eq_of_repr_eq same ▸ mem
  · exact fun mem => ⟨_, ⟨k, mem, rfl⟩, String.ofList_toList⟩

end Template

namespace Operator

/-- The operator reads as the parts say: they have a slot for the column and for each value. -/
structure ReadsAs (op : Operator) (parts : List Part) : Prop where
  read : parse op.template.toList = ⟨parts.map Part.piece, none⟩
  slots : ∀ k, .slot k ∈ parts ↔ k ≤ op.arity.toNat

/-- The operator takes up to two values and has a plain template. -/
def IsSlotted (op : Operator) : Prop :=
  (op.arity = 0 ∨ op.arity = 1 ∨ op.arity = 2) ∧ ∃ parts, op.ReadsAs parts

theorem readsAs_of_define {name template : String} {arity : Int} {op : Operator}
    (h : define name template arity = .ok op) {parts : List Part}
    (read : parse template.toList = ⟨parts.map Part.piece, none⟩) : op.ReadsAs parts := by
  obtain ⟨names, slotted, column, numbers, rfl⟩ := define_eq_ok_iff.mp h
  have numbered := Template.repr_mem_slots read slotted
  refine ⟨read, fun k => ?_⟩
  rw [← numbered]
  cases k with
  | zero => exact ⟨fun _ => Nat.zero_le _, fun _ => column⟩
  | succ k =>
    have value : (k + 1).repr ≠ "0" := fun same => by cases eq_of_repr_eq (n := 0) same
    have mem : (k + 1).repr ∈ names ↔ (k + 1).repr ∈ names.filter (· ≠ "0") := by simp [value]
    rw [mem]
    constructor
    · intro mem
      obtain ⟨i, inside, same⟩ := exists_of_areNumbersTo numbers mem
      obtain rfl : k = i := Nat.succ.inj (eq_of_repr_eq same)
      exact inside
    · intro inside
      obtain ⟨-, all⟩ : (names.filter (· ≠ "0")).length = arity.toNat ∧
          ∀ i < arity.toNat, (i + 1).repr ∈ names.filter (· ≠ "0") := by
        simpa [areNumbersTo] using numbers
      exact all k inside

theorem render_readsAs {op : Operator} {parts : List Part} (reads : op.ReadsAs parts)
    (small : op.arity.toNat ≤ Template.countLimit) {column : String} {values : List String}
    (enough : op.arity.toNat ≤ values.length) :
    op.render column values = .ok (Template.substituted parts (column :: values)) := by
  have slots : ∀ k, .slot k ∈ parts → k < (column :: values).length ∧ k ≤ Template.countLimit := by
    intro k mem
    have inside := (reads.slots k).mp mem
    rw [List.length_cons]
    omega
  rw [render, Template.fill_plain reads.read slots]
  rfl

end Operator

namespace OperatorTable

/-- Every operator takes up to two values and has a plain template. -/
def IsSlotted : OperatorTable → Prop := Entries fun _ op => op.IsSlotted

end OperatorTable

end Criteria
