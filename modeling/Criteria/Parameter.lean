import Criteria.NameMap
import Criteria.Value.Key
import Criteria.Value.Text

/-!
# Parameters

Parameters: a column with a value that is compared with it. The value reaches the statement
through a placeholder, or is written into the statement.
-/

namespace Criteria

structure Parameter where
  column : String
  dataType : DataType
  value : Value
  /-- Whether the value is bound through the placeholder. -/
  bindable : Bool
  name : String
  placeholder : String
  /-- Tells parameters apart whose values are the same as nothing else. -/
  origin : Nat

/-- What a parameter has in common with the parameters that are equal to it. Names and
placeholders are not among it. -/
structure ParameterKey where
  column : String
  dataType : DataType
  value : Value.Key
  bindable : Bool
deriving DecidableEq

namespace ParameterKey

/-- The value takes no part in the summary. -/
def digest (k : ParameterKey) : UInt64 := hash (k.column, k.dataType, k.bindable)

def compared (a b : ParameterKey) : Comparison :=
  (Comparison.ofEq (a.column, a.dataType) (b.column, b.dataType)).andThen
    ((a.value.compared b.value).andThen (.ofEq a.bindable b.bindable))

theorem compared_eq_true_iff (a b : ParameterKey) : a.compared b = some true ↔ a = b := by
  cases a
  cases b
  simp [compared, Comparison.andThen_eq_true_iff, Comparison.ofEq_eq_true_iff,
    Value.Key.compared_eq_true_iff, and_assoc]

end ParameterKey

namespace Parameter

/-- The text that stands for a parameter in a statement. -/
def text (p : Parameter) : Except Error String :=
  if p.bindable then .ok p.placeholder else p.value.toText

/-- The same text with one marker for all placeholders. -/
def markedText (marker : String) (p : Parameter) : Except Error String :=
  if p.bindable then .ok marker else p.value.toText

/-- The parameter is bound, or no integer in its value has too many digits. -/
def IsWritable (p : Parameter) : Prop :=
  p.bindable = false → ∀ n ∈ p.value.integers, Numeral.Short n.natAbs

instance (p : Parameter) : Decidable p.IsWritable := inferInstanceAs (Decidable (_ → _))

theorem text_cases (p : Parameter) :
    (∃ text, p.text = .ok text ∧ p.IsWritable) ∨
      (p.text = .error .longNumber ∧ ¬ p.IsWritable) := by
  cases bindable : p.bindable with
  | true =>
    refine .inl ⟨p.placeholder, if_pos bindable, fun inlined => ?_⟩
    cases bindable.symm.trans inlined
  | false =>
    have own : p.text = p.value.toText := by rw [text, bindable]; rfl
    rw [own]
    rcases p.value.toText_cases with ⟨text, written, short⟩ | ⟨failed, n, mem, long⟩
    · exact .inl ⟨text, written, fun _ => short⟩
    · exact .inr ⟨failed, fun short => long (short bindable n mem)⟩

theorem exists_text_iff {p : Parameter} : (∃ text, p.text = .ok text) ↔ p.IsWritable := by
  rcases p.text_cases with ⟨text, written, writable⟩ | ⟨failed, long⟩
  · exact ⟨fun _ => writable, fun _ => ⟨text, written⟩⟩
  · rw [failed]
    exact ⟨nofun, fun writable => absurd writable long⟩

theorem text_error {p : Parameter} {e : Error} (h : p.text = .error e) :
    e = .longNumber ∧ ¬ p.IsWritable := by
  rcases p.text_cases with ⟨text, written, -⟩ | ⟨failed, long⟩
  · cases written.symm.trans h
  · exact ⟨Except.error.inj (h.symm.trans failed), long⟩

def key (p : Parameter) : ParameterKey := ⟨p.column, p.dataType, p.value.key p.origin, p.bindable⟩

end Parameter

/-- Values by the names that they are bound under. -/
abbrev Bindings := NameMap Value

namespace Bindings

/-- The values of the parameters that are bound. Of two with one name the last is kept, in the
place of the first. -/
def ofParameters (parameters : List Parameter) : Bindings :=
  .ofList ((parameters.filter (·.bindable)).map fun p => (p.name, p.value))

end Bindings

end Criteria
