/-!
# Sorting texts

Texts in the order of their code points.
-/

namespace Criteria.Text

/-- Puts a text before the first that is not smaller. -/
def insertSorted (s : String) : List String → List String
  | [] => [s]
  | t :: rest => if s ≤ t then s :: t :: rest else t :: insertSorted s rest

def sorted : List String → List String
  | [] => []
  | s :: rest => insertSorted s (sorted rest)

theorem insertSorted_perm (s : String) (l : List String) : (insertSorted s l).Perm (s :: l) := by
  induction l with
  | nil => exact .refl _
  | cons t rest ih =>
    by_cases h : s ≤ t
    · simp [insertSorted, h]
    · simp only [insertSorted, if_neg h]
      exact (ih.cons t).trans (.swap s t rest)

theorem sorted_perm (l : List String) : (sorted l).Perm l := by
  induction l with
  | nil => exact .refl _
  | cons s rest ih => exact (insertSorted_perm s _).trans (ih.cons s)

@[simp] theorem mem_sorted {s : String} {l : List String} : s ∈ sorted l ↔ s ∈ l :=
  (sorted_perm l).mem_iff

theorem pairwise_insertSorted {s : String} {l : List String} (h : l.Pairwise (· ≤ ·)) :
    (insertSorted s l).Pairwise (· ≤ ·) := by
  induction l with
  | nil => simp [insertSorted]
  | cons t rest ih =>
    obtain ⟨ht, hrest⟩ := List.pairwise_cons.mp h
    by_cases hst : s ≤ t
    · rw [insertSorted, if_pos hst]
      refine List.pairwise_cons.mpr ⟨fun u hu => ?_, h⟩
      rcases List.mem_cons.mp hu with rfl | hu
      · exact hst
      · exact String.le_trans hst (ht u hu)
    · rw [insertSorted, if_neg hst]
      refine List.pairwise_cons.mpr ⟨fun u hu => ?_, ih hrest⟩
      rcases List.mem_cons.mp ((insertSorted_perm s rest).mem_iff.mp hu) with rfl | hu
      · exact (String.le_total u t).resolve_left hst
      · exact ht u hu

theorem pairwise_sorted (l : List String) : (sorted l).Pairwise (· ≤ ·) := by
  induction l with
  | nil => simp [sorted]
  | cons s rest ih => exact pairwise_insertSorted ih

/-- Distinct texts come out in strict order. -/
theorem increasing_sorted {l : List String} (distinct : l.Nodup) :
    (sorted l).Pairwise (· < ·) := by
  have each := (pairwise_sorted l).and ((sorted_perm l).nodup_iff.mpr distinct)
  exact each.imp fun ⟨le, ne⟩ => String.not_le.mp fun ge => ne (String.le_antisymm le ge)

example : sorted ["b", "a10", "é", "a9", "B"] = ["B", "a10", "a9", "b", "é"] := by decide

end Criteria.Text
