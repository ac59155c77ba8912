/-!
# Spaces

White space, trimming and blank texts. Trimming removes the white space of Unicode and also the
four information separators; number texts are trimmed of the former only.
-/

namespace Criteria.Text

/-- The characters with the property White_Space. -/
def isWhiteSpace (c : Char) : Bool :=
  let n := c.toNat
  (9 ≤ n && n ≤ 13) || n == 0x20 || n == 0x85 || n == 0xA0 || n == 0x1680 ||
    (0x2000 ≤ n && n ≤ 0x200A) || n == 0x2028 || n == 0x2029 || n == 0x202F || n == 0x205F ||
    n == 0x3000

/-- White space and the separators U+001C to U+001F. -/
def isSpace (c : Char) : Bool :=
  isWhiteSpace c || (0x1C ≤ c.toNat && c.toNat ≤ 0x1F)

/-- Drops the characters of a class from both ends. -/
def stripChars (p : Char → Bool) (s : List Char) : List Char :=
  ((s.dropWhile p).reverse.dropWhile p).reverse

def trim (s : String) : String := String.ofList (stripChars isSpace s.toList)

/-- A text with nothing but spaces in it. -/
def isBlank (s : String) : Bool := s.toList.all isSpace

theorem dropWhile_eq_nil_iff_forall {p : Char → Bool} {s : List Char} :
    s.dropWhile p = [] ↔ ∀ c ∈ s, p c = true := by
  induction s with
  | nil => simp
  | cons c s ih => by_cases h : p c = true <;> simp [h, ih]

theorem stripChars_eq_nil_iff {p : Char → Bool} {s : List Char} :
    stripChars p s = [] ↔ ∀ c ∈ s, p c = true := by
  constructor
  · intro h
    have inner : (s.dropWhile p).reverse.dropWhile p = [] := by simpa [stripChars] using h
    have kept : s.dropWhile p = [] := by
      cases hs : s.dropWhile p with
      | nil => rfl
      | cons c rest =>
        have hc : p c = true := dropWhile_eq_nil_iff_forall.mp inner c (by simp [hs])
        have hn := List.head_dropWhile_not p (l := s) (by simp [hs])
        simp [hs, hc] at hn
    exact dropWhile_eq_nil_iff_forall.mp kept
  · intro h
    simp [stripChars, dropWhile_eq_nil_iff_forall.mpr h]

theorem isBlank_iff_trim_eq {s : String} : isBlank s = true ↔ trim s = "" := by
  rw [isBlank, trim, List.all_eq_true, ← stripChars_eq_nil_iff, ← String.toList_inj]
  simp

example : trim "\t a b\x1f " = "a b" := by decide
example : isBlank "" = true ∧ isBlank " \x0b" = true ∧ isBlank "\u200b" = false := by decide

end Criteria.Text
