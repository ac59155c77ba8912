import Criteria.Proofs.InStep
import Criteria.Proofs.Template.Fields

/-!
# Templates without nested fields

Whether a template of numbered fields can be filled, and if not what is wrong, does not depend on
the texts but only on how many there are, as long as no field has fields of its own. With nested
fields it does: a text may then be read as a specification.
-/

namespace Criteria.Template

open Text (CodePoint)

variable {args args' : List (List Char)}

/-- The two runs have come equally far in counting their fields. -/
def SameCount {α β : Type} (a : α × Numbering) (b : β × Numbering) : Prop := a.2 = b.2

namespace Field

/-- The name is one number, with no steps behind it. -/
def IsNumbered (f : Field) : Prop := ∃ k : Nat, f.name = k.repr.toList

/-- The specification has no fields of its own. -/
def NestsNone (f : Field) : Prop := fields (parse f.spec).pieces = []

end Field

theorem lookUp_inStep (length : args.length = args'.length) (k : Nat) (numbering : Numbering) :
    InStep (fun a b => a.2 = b.2 ∧ ∃ s t, a.1 = .text s ∧ b.1 = .text t)
      (lookUp args k.repr.toList numbering) (lookUp args' k.repr.toList numbering) := by
  simp only [lookUp, takeWhile_repr, dropWhile_repr]
  refine InStep.bind_same fun number _ => ?_
  by_cases unknown : (number.isNone && !k.repr.toList.isEmpty) = true
  · simp only [unknown, if_true]
    rfl
  · simp only [unknown]
    refine InStep.bind_same ?_
    rintro ⟨n, counted⟩ -
    rcases Nat.lt_or_ge n args.length with inside | outside
    · simp only [List.getElem?_eq_getElem inside, List.getElem?_eq_getElem (length ▸ inside)]
      exact ⟨rfl, _, _, rfl, rfl⟩
    · simp only [List.getElem?_eq_none outside, List.getElem?_eq_none (length ▸ outside)]
      rfl

theorem convert_inStep (conversion : Option Char) (s t : List Char) :
    InStep (fun a b => ∃ s t, a = .text s ∧ b = .text t) (convert conversion (.text s))
      (convert conversion (.text t)) := by
  by_cases known : ∀ c ∈ conversion, c ∈ conversions
  · obtain ⟨s', first⟩ := convert_known known s
    obtain ⟨t', second⟩ := convert_known known t
    rw [first, second]
    exact ⟨s', t', rfl, rfl⟩
  · obtain ⟨c, rfl, unknown⟩ : ∃ c, conversion = some c ∧ c ∉ conversions := by simpa using known
    rw [convert_unknown unknown, convert_unknown unknown]
    rfl

/-- What a specification says is checked without the text that it is for. -/
theorem setText_inStep (spec : List CodePoint) (s t : List Char) :
    InStep (fun _ _ => True) (setText spec s) (setText spec t) := by
  unfold setText
  by_cases empty : spec.isEmpty = true
  · rw [if_pos empty, if_pos empty]
    trivial
  · rw [if_neg empty, if_neg empty]
    refine InStep.bind_same fun parsed _ => ?_
    refine InStep.bind_same fun _ _ => ?_
    exact InStep.bind_same fun _ _ => trivial

theorem fillField_inStep {inner inner' : List Char → Numbering →
      Except Fault (List CodePoint × Numbering)} (length : args.length = args'.length) {f : Field}
    (numbered : f.IsNumbered) (same : ∀ numbering, inner f.spec numbering = inner' f.spec numbering)
    (numbering : Numbering) :
    InStep SameCount (fillField args inner f numbering) (fillField args' inner' f numbering) := by
  obtain ⟨k, name⟩ := numbered
  rw [fillField, fillField, name]
  refine (lookUp_inStep length k numbering).bind ?_
  rintro ⟨_, counted⟩ ⟨_, _⟩ ⟨rfl, s, t, rfl, rfl⟩
  refine (convert_inStep f.conversion s t).bind ?_
  rintro _ _ ⟨s, t, rfl, rfl⟩
  by_cases nested : f.spec.contains '{' = true
  · simp only [nested, if_true, same counted]
    refine InStep.bind_same ?_
    rintro ⟨spec, counted⟩ -
    exact (setText_inStep spec s t).bind fun _ _ _ => rfl
  · simp only [nested]
    exact (setText_inStep (CodePoint.ofChars f.spec) s t).bind fun _ _ _ => rfl

/-- Where there are no fields it does not matter how fields would be filled. -/
theorem fillPieces_of_fields_eq_nil {fill fill' : Field → Numbering →
      Except Fault (List CodePoint × Numbering)} {pieces : List Piece} (flat : fields pieces = [])
    (fault : Option Fault) (numbering : Numbering) :
    fillPieces fill pieces fault numbering = fillPieces fill' pieces fault numbering := by
  induction pieces with
  | nil => cases fault <;> rfl
  | cons piece pieces ih =>
    cases piece with
    | char c => rw [fillPieces, fillPieces, ih flat]
    | field f => cases flat

theorem fillPieces_inStep {fill fill' : Field → Numbering →
      Except Fault (List CodePoint × Numbering)} {pieces : List Piece}
    (each : ∀ f ∈ fields pieces, ∀ numbering,
      InStep SameCount (fill f numbering) (fill' f numbering))
    (fault : Option Fault) (numbering : Numbering) :
    InStep SameCount (fillPieces fill pieces fault numbering)
      (fillPieces fill' pieces fault numbering) := by
  induction pieces generalizing numbering with
  | nil => cases fault <;> rfl
  | cons piece pieces ih =>
    cases piece with
    | char c => exact (ih each numbering).bind fun _ _ same => same
    | field f =>
      have rest := ih fun g hg => each g (List.mem_cons_of_mem f hg)
      refine (each f List.mem_cons_self numbering).bind ?_
      rintro ⟨_, counted⟩ ⟨_, _⟩ ⟨⟩
      exact (rest counted).bind fun _ _ same => same

/-- Filling a template with other texts, but as many, comes to the same fault or to none. -/
theorem fill_inStep {template : String} {texts texts' : List String}
    (length : texts.length = texts'.length)
    (numbered : ∀ f ∈ fields (parse template.toList).pieces, f.IsNumbered)
    (flat : ∀ f ∈ fields (parse template.toList).pieces, f.NestsNone) :
    InStep (fun _ _ => True) (fill template texts) (fill template texts') := by
  have chars : (texts.map String.toList).length = (texts'.map String.toList).length := by
    simpa using length
  refine InStep.bind (fillPieces_inStep (fun f hf numbering => ?_) _ _) fun _ _ _ => trivial
  exact fillField_inStep chars (numbered f hf)
    (fun _ => fillPieces_of_fields_eq_nil (flat f hf) _ _) numbering

end Criteria.Template
