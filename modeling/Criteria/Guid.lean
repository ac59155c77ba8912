import Criteria.Text.Hex
import Criteria.Text.Lines

/-!
# Globally unique identifiers

Globally unique identifiers: 128 bits, written as 32 hexadecimal digits in five groups.
-/

namespace Criteria

structure Guid where
  value : Nat
  valid : value < Nat.pow 2 128
deriving DecidableEq

namespace Guid

/-- The digits in groups of eight, four, four, four and twelve. -/
def hyphenated (s : List Char) : List Char :=
  s.take 8 ++ '-' :: (s.drop 8).take 4 ++ '-' :: (s.drop 12).take 4 ++ '-' ::
    (s.drop 16).take 4 ++ '-' :: s.drop 20

def chars (g : Guid) : List Char := hyphenated (Text.hexDigits 32 g.value)

def toText (g : Guid) : String := String.ofList g.chars

def ofDigits? (s : List Char) : Option Guid :=
  if s.length = 32 then do
    let n ← Text.hexNumber? s
    if h : n < Nat.pow 2 128 then some ⟨n, h⟩ else none
  else none

/-- Reads the grouped form: it is what grouping makes of its own digits. -/
def ofGroups? (s : List Char) : Option Guid :=
  let digits := s.filter (· ≠ '-')
  if hyphenated digits = s then ofDigits? digits else none

/-- The text inside braces, or behind the marker of a resource name. -/
def unwrap? (s : List Char) : Option (List Char) :=
  match s with
  | '{' :: t => if t.getLast? = some '}' then some t.dropLast else none
  | _ => Text.dropLead? "urn:uuid:".toList s

/-- Reads bare digits, groups, and groups in a wrapper. -/
def readChars? (s : List Char) : Option Guid :=
  match unwrap? s with
  | some inner => ofGroups? inner
  | none => (ofDigits? s).orElse fun _ => ofGroups? s

theorem filter_ne_of_forall {s : List Char} (h : ∀ c ∈ s, c ≠ '-') : s.filter (· ≠ '-') = s := by
  rw [List.filter_eq_self]
  simpa using h

theorem filter_hyphenated {s : List Char} (h : ∀ c ∈ s, c ≠ '-') :
    (hyphenated s).filter (· ≠ '-') = s := by
  have part : ∀ t : List Char, (∀ c ∈ t, c ∈ s) → t.filter (· ≠ '-') = t := fun t ht =>
    filter_ne_of_forall fun c hc => h c (ht c hc)
  have d : ∀ n, ∀ c ∈ s.drop n, c ∈ s := fun n c hc => List.mem_of_mem_drop hc
  have dt : ∀ n m, ∀ c ∈ (s.drop n).take m, c ∈ s := fun n m c hc => d n c (List.mem_of_mem_take hc)
  have t0 : ∀ c ∈ s.take 8, c ∈ s := fun c hc => List.mem_of_mem_take hc
  simp only [hyphenated, List.filter_append, List.filter_cons, part _ t0, part _ (dt 8 4),
    part _ (dt 12 4), part _ (dt 16 4), part _ (d 20), ne_eq, not_true_eq_false, decide_false,
    Bool.false_eq_true, if_false]
  have step : ∀ n m, (s.drop n).take m ++ s.drop (n + m) = s.drop n := fun n m => by
    rw [← List.drop_drop, List.take_append_drop]
  rw [List.append_assoc, List.append_assoc, List.append_assoc, step 16 4, step 12 4, step 8 4,
    List.take_append_drop]

example : (readChars? "123E4567E89B12D3A456426614174000".toList).map toText =
    some "123e4567-e89b-12d3-a456-426614174000" := by decide +kernel
example : (readChars? "urn:uuid:123e4567-e89b-12d3-a456-426614174000".toList).isSome := by
  decide +kernel
example : readChars? "\x7b123e4567e89b12d3a456426614174000\x7d".toList = none := by decide +kernel

end Guid
end Criteria
