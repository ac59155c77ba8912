import Criteria.Proofs.Operator.Slotted
import Criteria.Proofs.Template.Written
import Mathlib.Data.List.Nodup

/-!
# Substitution in operators

An operator whose fields are bare is written by one substitution: the column and the values stand at
its slots, all else stands as it is, and nothing that is put in is read again. Every list of texts
and slots can be written as the template of such an operator.
-/

namespace Criteria

open Template (Part Piece Chunk Field parse slots fields ofChunks countLimit)

namespace Template

/-- The field gives a name and nothing else. -/
def Field.IsBare (f : Field) : Prop := f.conversion = none ∧ f.spec = []

instance (f : Field) : Decidable f.IsBare :=
  inferInstanceAs (Decidable (f.conversion = none ∧ f.spec = []))

/-- Pieces whose fields give numbers and nothing else are parts. -/
theorem exists_parts {pieces : List Piece}
    (bare : ∀ f ∈ fields pieces, ∃ k : Nat, f = ⟨k.repr.toList, none, []⟩) :
    ∃ parts : List Part, pieces = parts.map Part.piece := by
  induction pieces with
  | nil => exact ⟨[], rfl⟩
  | cons piece pieces ih =>
    cases piece with
    | char c =>
      obtain ⟨parts, rfl⟩ := ih bare
      exact ⟨.char c :: parts, rfl⟩
    | field f =>
      obtain ⟨⟨k, rfl⟩, others⟩ := List.forall_mem_cons.mp bare
      obtain ⟨parts, rfl⟩ := ih others
      exact ⟨.slot k :: parts, rfl⟩

theorem substituted_chunks (chunks : List Chunk) (texts : List String) :
    substituted (chunks.flatMap Chunk.parts) texts =
      String.join (chunks.map (Chunk.filled texts)) := by
  have each : ∀ chunk : Chunk, chunk.parts.flatMap (Part.filled (texts.map String.toList)) =
      (chunk.filled texts).toList := by
    intro chunk
    cases chunk with
    | literal text => simp [Chunk.parts, Chunk.filled, List.flatMap_map, Part.filled]
    | slot k =>
      simp only [Chunk.parts, Chunk.filled, Part.filled, List.flatMap_singleton, List.getD,
        List.getElem?_map]
      cases texts[k]? <;> rfl
  rw [substituted, ← String.toList_inj, String.toList_ofList, String.toList_join,
    List.flatMap_assoc, List.flatMap_map]
  exact congrArg chunks.flatMap (funext each)

/-- Texts that no slot stands for are not used. -/
theorem substituted_append {parts : List Part} {texts : List String}
    (inside : ∀ k, .slot k ∈ parts → k < texts.length) (more : List String) :
    substituted parts (texts ++ more) = substituted parts texts := by
  refine congrArg String.ofList (List.flatMap_congr fun part mem => ?_)
  cases part with
  | char c => rfl
  | slot k =>
    have inside : k < (texts.map String.toList).length := by simpa using inside k mem
    simp only [Part.filled, List.map_append, List.getD, List.getElem?_append_left inside]

end Template

namespace Operator

variable {op : Operator} {parts : List Part}

theorem readsAs_of_bare {name template : String} {arity : Int}
    (defined : define name template arity = .ok op) (bare : ∀ f ∈ op.fields, f.IsBare) :
    ∃ parts, op.ReadsAs parts := by
  obtain ⟨sound, numbered⟩ := numbered_of_define defined
  have plain : ∀ f ∈ op.fields, ∃ k : Nat, f = ⟨k.repr.toList, none, []⟩ := by
    intro f mem
    obtain ⟨k, -, number⟩ := numbered f mem
    obtain ⟨conversion, spec⟩ := bare f mem
    exact ⟨k, by rw [← number, ← conversion, ← spec]⟩
  obtain ⟨parts, pieces⟩ := Template.exists_parts plain
  obtain rfl := eq_of_define defined
  exact ⟨parts, readsAs_of_define defined (by rw [← pieces, ← sound])⟩

/-- The slots of a template take up room in it, more than one character for each. -/
theorem arity_lt_length (reads : op.ReadsAs parts) : op.arity.toNat < op.template.length := by
  have slots : (List.range (op.arity.toNat + 1)).map Part.slot ⊆ parts := by
    intro part mem
    obtain ⟨k, inside, rfl⟩ := List.mem_map.mp mem
    exact (reads.slots k).mpr (Nat.le_of_lt_succ (List.mem_range.mp inside))
  have distinct : ((List.range (op.arity.toNat + 1)).map Part.slot).Nodup :=
    List.Nodup.map (fun _ _ same => Part.slot.inj same) List.nodup_range
  have few := (List.subperm_of_subset distinct slots).length_le
  have room := Template.length_pieces_le .text op.template.toList
  rw [List.length_map, List.length_range] at few
  rw [← parse, reads.read, List.length_map, String.length_toList] at room
  omega

theorem arity_le_countLimit (reads : op.ReadsAs parts)
    (short : op.template.length ≤ countLimit) : op.arity.toNat ≤ countLimit :=
  Nat.le_of_lt (Nat.lt_of_lt_of_le (arity_lt_length reads) short)

/-- Slots that are numbered up to the arity are those that an operator has to have. -/
theorem define_of_parts {template : String}
    (read : parse template.toList = ⟨parts.map Part.piece, none⟩) {n : Nat}
    (numbered : ∀ k, .slot k ∈ parts ↔ k ≤ n) (name : String) :
    define name template n = .ok ⟨name, template, n⟩ := by
  have found : slots template = .ok (Template.distinctNames (parts.map Part.piece)) := by
    rw [slots, read]
  have named : ∀ k : Nat, k.repr ∈ Template.distinctNames (parts.map Part.piece) ↔ k ≤ n :=
    fun k => (Template.repr_mem_slots read found k).trans (numbered k)
  have distinct : (Template.distinctNames (parts.map Part.piece)).Nodup :=
    Template.nodup_distinctNamesFrom List.nodup_nil
  -- Both lists have no repetitions, so that they need only have the same members.
  have values : ((Template.distinctNames (parts.map Part.piece)).filter (· ≠ "0")).Perm
      (numbersTo n) := by
    refine (List.perm_ext_iff_of_nodup (distinct.filter _) (nodup_numbersTo n)).mpr fun name => ?_
    simp only [List.mem_filter, numbersTo, List.mem_map, List.mem_range, decide_eq_true_eq]
    constructor
    · rintro ⟨mem, value⟩
      obtain ⟨f, field, rfl⟩ := ((Template.slots_ok found).2 name).mp mem
      rw [read] at field
      obtain ⟨k, -, rfl⟩ := Template.mem_fields_parts.mp field
      rw [String.ofList_toList] at mem value ⊢
      cases k with
      | zero => exact absurd rfl value
      | succ i => exact ⟨i, (named (i + 1)).mp mem, rfl⟩
    · rintro ⟨i, inside, rfl⟩
      exact ⟨(named (i + 1)).mpr inside, fun zero => by cases eq_of_repr_eq (n := 0) zero⟩
  exact define_eq_ok_iff.mpr ⟨_, found, (named 0).mpr (Nat.zero_le n),
    areNumbersTo_iff.mpr values, rfl⟩

/-- The column and the values are put in the places of the slots all at once, and surplus values are
left out. The templates that are written from texts and slots are of this kind. As texts have at
most `countLimit` characters, no slot has a greater number. -/
theorem render_substitutes (name : String) :
    (∀ template arity op, define name template arity = .ok op → (∀ f ∈ op.fields, f.IsBare) →
      template.length ≤ countLimit →
      ∃ parts, op.ReadsAs parts ∧ ∀ column (values : List String), arity ≤ values.length →
        op.render column values = .ok (Template.substituted parts (column :: values)) ∧
        ∀ more, op.render column (values ++ more) = op.render column values) ∧
    (∀ (chunks : List Chunk) (n : Nat), (∀ k, .slot k ∈ chunks ↔ k ≤ n) →
      define name (ofChunks chunks) n = .ok ⟨name, ofChunks chunks, n⟩ ∧
      ((ofChunks chunks).length ≤ countLimit →
        ∀ column (values : List String), n ≤ values.length →
          render ⟨name, ofChunks chunks, n⟩ column values =
            .ok (String.join (chunks.map (Chunk.filled (column :: values)))))) := by
  constructor
  · intro template arity op defined bare short
    obtain ⟨parts, reads⟩ := readsAs_of_bare defined bare
    obtain rfl := eq_of_define defined
    have small := arity_le_countLimit reads short
    refine ⟨parts, reads, fun column values enough => ?_⟩
    have enough : arity.toNat ≤ values.length := by omega
    have rendered : render ⟨name, template, arity⟩ column values =
        .ok (Template.substituted parts (column :: values)) := render_readsAs reads small enough
    refine ⟨rendered, fun more => ?_⟩
    have longer : arity.toNat ≤ (values ++ more).length := by
      rw [List.length_append]
      omega
    have inside : ∀ k, .slot k ∈ parts → k < (column :: values).length := fun k mem =>
      Nat.lt_succ_of_le (Nat.le_trans ((reads.slots k).mp mem) enough)
    rw [rendered, render_readsAs reads small longer, ← List.cons_append,
      Template.substituted_append inside]
  · intro chunks n numbered
    have read := Template.parse_ofChunks chunks
    have slotted : ∀ k, .slot k ∈ chunks.flatMap Chunk.parts ↔ k ≤ n :=
      fun k => Template.slot_mem_parts.trans (numbered k)
    have defined := define_of_parts read slotted name
    refine ⟨defined, fun short column values enough => ?_⟩
    have reads := readsAs_of_define defined read
    rw [render_readsAs reads (arity_le_countLimit reads short) enough,
      Template.substituted_chunks]

theorem render_substitutes_between_braces :
    define "SET" "\x7b\x7b\x7b0\x7d\x7d\x7d = \x7b1\x7d" 1 =
      .ok ⟨"SET", "\x7b\x7b\x7b0\x7d\x7d\x7d = \x7b1\x7d", 1⟩ ∧
    render ⟨"SET", "\x7b\x7b\x7b0\x7d\x7d\x7d = \x7b1\x7d", 1⟩ "\x7b1\x7d" ["\x7b\x7b"] =
      .ok "\x7b\x7b1\x7d\x7d = \x7b\x7b" ∧
    render ⟨"SET", "\x7b\x7b\x7b0\x7d\x7d\x7d = \x7b1\x7d", 1⟩ "\x7b1\x7d" ["\x7b\x7b", "x"] =
      render ⟨"SET", "\x7b\x7b\x7b0\x7d\x7d\x7d = \x7b1\x7d", 1⟩ "\x7b1\x7d" ["\x7b\x7b"] := by
  obtain ⟨substituting, writing⟩ := render_substitutes "SET"
  have numbered : ∀ k, Chunk.slot k ∈
      [.literal "\x7b", .slot 0, .literal "\x7d = ", .slot 1] ↔ k ≤ 1 := by
    intro k
    simp only [List.mem_cons, reduceCtorEq, Chunk.slot.injEq, List.not_mem_nil, false_or, or_false]
    omega
  obtain ⟨defined, rendered⟩ := writing _ 1 numbered
  obtain ⟨parts, -, filled⟩ :=
    substituting _ 1 _ defined (by decide +kernel) (by decide +kernel)
  exact ⟨defined, rendered (by decide +kernel) _ _ (by decide),
    (filled "\x7b1\x7d" ["\x7b\x7b"] (by decide)).2 ["x"]⟩

end Operator
end Criteria
