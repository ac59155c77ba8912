import Criteria.Proofs.Outcome
import Criteria.Template.Filling

/-!
# Templates of plain slots

Templates made of text and of slots that give a number and nothing else. Filling one puts the
arguments in at their slots and leaves all else as it is.
-/

namespace Criteria.Template

open Text (CodePoint)

/-- A piece of a template without conversions and specifications. -/
inductive Part where
  | char (c : Char)
  | slot (k : Nat)
deriving DecidableEq

namespace Part

def piece : Part → Piece
  | char c => .char c
  | slot k => .field ⟨k.repr.toList, none, []⟩

/-- What stands in the place of a part. -/
def filled (args : List (List Char)) : Part → List Char
  | char c => [c]
  | slot k => args.getD k []

end Part

theorem le_ofDigitChars (n : Nat) (digits : List Char) : n ≤ Nat.ofDigitChars 10 digits n := by
  induction digits generalizing n with
  | nil => simp
  | cons c digits ih =>
    rw [Nat.ofDigitChars_cons]
    exact Nat.le_trans (by omega) (ih _)

/-- Digits are read to their end, as long as the number stays in bounds. -/
theorem takeCountFrom_digits {digits : List Char} (all : ∀ c ∈ digits, c.isDigit = true) {n : Nat}
    (bound : Nat.ofDigitChars 10 digits n ≤ countLimit) :
    takeCountFrom n (CodePoint.ofChars digits) = .ok (Nat.ofDigitChars 10 digits n, []) := by
  induction digits generalizing n with
  | nil => simp [CodePoint.ofChars, takeCountFrom]
  | cons c digits ih =>
    rw [Nat.ofDigitChars_cons] at bound ⊢
    have digit : Text.digitValue? c = some (c.toNat - '0'.toNat) :=
      Text.digitValue?_of_isDigit (all c List.mem_cons_self)
    have small : ¬ countLimit < 10 * n + (c.toNat - '0'.toNat) :=
      Nat.not_lt.mpr (Nat.le_trans (le_ofDigitChars _ digits) bound)
    have rest := ih (fun d hd => all d (List.mem_cons_of_mem c hd)) bound
    simp only [CodePoint.ofChars, List.map_cons, takeCountFrom, CodePoint.toChar, digit,
      if_neg small] at rest ⊢
    exact rest

theorem isDigit_of_mem_repr {c : Char} {k : Nat} (h : c ∈ k.repr.toList) : c.isDigit = true := by
  rw [Nat.toList_repr] at h
  exact Nat.isDigit_of_mem_toDigits (by decide) (by decide) h

theorem count?_repr {k : Nat} (small : k ≤ countLimit) : count? k.repr.toList = .ok (some k) := by
  have value : Nat.ofDigitChars 10 k.repr.toList 0 = k := by simp
  have read := takeCountFrom_digits (fun c hc => isDigit_of_mem_repr hc) (value ▸ small)
  have filled : k.repr.toList.isEmpty = false := by simp
  rw [count?, filled, read, value]
  rfl

/-- A name that is a number has no steps behind it. -/
theorem repr_stepless (k : Nat) :
    ∀ c ∈ k.repr.toList, decide (c ≠ '.' ∧ c ≠ '[') = true := by
  intro c hc
  have digit := isDigit_of_mem_repr hc
  have point : c ≠ '.' := by rintro rfl; simp at digit
  have bracket : c ≠ '[' := by rintro rfl; simp at digit
  simp [point, bracket]

theorem takeWhile_repr (k : Nat) :
    k.repr.toList.takeWhile (fun c => c ≠ '.' ∧ c ≠ '[') = k.repr.toList := by
  rw [← List.append_nil k.repr.toList, List.takeWhile_append_of_pos (repr_stepless k)]
  rfl

theorem dropWhile_repr (k : Nat) :
    k.repr.toList.dropWhile (fun c => c ≠ '.' ∧ c ≠ '[') = [] := by
  rw [← List.append_nil k.repr.toList, List.dropWhile_append_of_pos (repr_stepless k)]
  rfl

/-- Whether the fields so far were numbered by hand, if at all. -/
def Numbering.IsManual (numbering : Numbering) : Prop :=
  numbering = .undecided ∨ numbering = .manual

theorem lookUp_repr {args : List (List Char)} {k : Nat} (inside : k < args.length)
    (small : k ≤ countLimit) {numbering : Numbering} (manual : numbering.IsManual) :
    lookUp args k.repr.toList numbering = .ok (.text (args.getD k []), .manual) := by
  have advanced : numbering.advance (some k) = .ok (k, .manual) := by
    rcases manual with rfl | rfl <;> rfl
  have arg : args[k]? = some (args.getD k []) := by simp [inside]
  have numbered : (some k).isNone = false := rfl
  simp only [lookUp, takeWhile_repr, dropWhile_repr, count?_repr small, ok_bind, numbered,
    Bool.false_and, Bool.false_eq_true, if_false, advanced, arg]
  rfl

theorem fillField_slot {args : List (List Char)}
    {inner : List Char → Numbering → Except Fault (List CodePoint × Numbering)} {k : Nat}
    (inside : k < args.length) (small : k ≤ countLimit) {numbering : Numbering}
    (manual : numbering.IsManual) :
    fillField args inner ⟨k.repr.toList, none, []⟩ numbering =
      .ok (CodePoint.ofChars (args.getD k []), .manual) := by
  rw [fillField, lookUp_repr inside small manual]
  rfl

/-- Plain parts are filled one by one, whatever the template nests elsewhere. -/
theorem fillPieces_plain {args : List (List Char)}
    {inner : List Char → Numbering → Except Fault (List CodePoint × Numbering)}
    {parts : List Part} (slots : ∀ k, .slot k ∈ parts → k < args.length ∧ k ≤ countLimit)
    {numbering : Numbering} (manual : numbering.IsManual) :
    ∃ left : Numbering, left.IsManual ∧
      fillPieces (fillField args inner) (parts.map Part.piece) none numbering =
        .ok (CodePoint.ofChars (parts.flatMap (Part.filled args)), left) := by
  induction parts generalizing numbering with
  | nil => exact ⟨numbering, manual, rfl⟩
  | cons part parts ih =>
    have later : ∀ k, .slot k ∈ parts → k < args.length ∧ k ≤ countLimit :=
      fun k hk => slots k (List.mem_cons_of_mem part hk)
    cases part with
    | char c =>
      obtain ⟨left, hleft, rest⟩ := ih later manual
      refine ⟨left, hleft, ?_⟩
      simp only [List.map_cons, Part.piece, fillPieces, rest]
      rfl
    | slot k =>
      obtain ⟨inside, small⟩ := slots k List.mem_cons_self
      have handed : Numbering.IsManual .manual := Or.inr rfl
      obtain ⟨left, hleft, rest⟩ := ih later handed
      refine ⟨left, hleft, ?_⟩
      simp only [List.map_cons, Part.piece, fillPieces, fillField_slot inside small manual, ok_bind,
        rest, List.flatMap_cons, Part.filled, CodePoint.ofChars, List.map_append]
      rfl

/-- Filling a template of plain parts puts the arguments in at their slots. -/
theorem fill_plain {template : String} {parts : List Part}
    (parsed : parse template.toList = ⟨parts.map Part.piece, none⟩) {args : List String}
    (slots : ∀ k, .slot k ∈ parts → k < args.length ∧ k ≤ countLimit) :
    fill template args =
      .ok (String.ofList (parts.flatMap (Part.filled (args.map String.toList)))) := by
  have inside : ∀ k, .slot k ∈ parts →
      k < (args.map String.toList).length ∧ k ≤ countLimit := by
    intro k hk
    rw [List.length_map]
    exact slots k hk
  have start : Numbering.IsManual .undecided := Or.inl rfl
  obtain ⟨left, -, filled⟩ :=
    @fillPieces_plain _ (fillNested (args.map String.toList) 1) _ inside _ start
  rw [fill, fillNested, parsed]
  simp only [filled, ok_bind]
  rw [CodePoint.toChars_ofChars]
  rfl

example : parse "\x7b0\x7d IS \x7b1\x7d".toList =
    ⟨[Part.slot 0, .char ' ', .char 'I', .char 'S', .char ' ', .slot 1].map Part.piece, none⟩ := by
  decide

end Criteria.Template
