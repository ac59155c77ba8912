import Criteria.Text.Identifier

/-!
# Characters in texts

Which characters a text does without, and which one it begins with. This is all that must be known
of the parts of a statement to find in it again what they have been put around.
-/

namespace Criteria.Text

/-- A text without these characters. -/
def Lacks (characters : List Char) (s : String) : Prop := ∀ c ∈ s.toList, c ∉ characters

-- One character of the text after the other: the search over all characters there are, which an
-- instance for `∀ c : Char` would make, does not end.
instance (characters : List Char) (s : String) : Decidable (Lacks characters s) :=
  List.decidableBAll (· ∉ characters) s.toList

variable {characters : List Char} {s t : String}

theorem lacks_append_iff : Lacks characters (s ++ t) ↔ Lacks characters s ∧ Lacks characters t := by
  simp only [Lacks, String.toList_append, List.forall_mem_append]

theorem lacks_append (hs : Lacks characters s) (ht : Lacks characters t) :
    Lacks characters (s ++ t) :=
  lacks_append_iff.mpr ⟨hs, ht⟩

theorem lacks_intercalate {separator : String} {texts : List String}
    (clean : Lacks characters separator) (each : ∀ t ∈ texts, Lacks characters t) :
    Lacks characters (separator.intercalate texts) := by
  induction texts with
  | nil => simp [Lacks]
  | cons t texts ih =>
    rw [List.forall_mem_cons] at each
    cases texts with
    | nil => simpa using each.1
    | cons u texts =>
      rw [String.intercalate_cons_cons]
      exact lacks_append (lacks_append each.1 clean) (ih each.2)

theorem lacks_of_isIdentifier (h : isIdentifier s = true)
    (outside : characters.any isIdentifierRest = false) : Lacks characters s := by
  intro c hc inside
  have continues : isIdentifierRest c = true := isIdentifierRest_of_mem h c hc
  exact List.any_eq_false.mp outside c inside continues

/-- A text without the characters that begin a placeholder in any of the built-in dialects. -/
abbrev Unmarked (s : String) : Prop := Lacks ['@', ':', '%'] s

/-- A text without blanks and parentheses, such as a word over letters, digits, `_` and `.`. -/
abbrev Solid (s : String) : Prop := Lacks [' ', '(', ')'] s

/-- A text that ends an identifier before it. -/
def Delimits (s : String) : Prop :=
  ∃ c rest, s.toList = c :: rest ∧ isIdentifierRest c = false

/-- A text that is put off by a blank, and not by a blank before a parenthesis. -/
def Spaced (s : String) : Prop := ∃ c rest, s.toList = ' ' :: c :: rest ∧ c ≠ '('

theorem spaced_append (hs : Spaced s) (t : String) : Spaced (s ++ t) := by
  obtain ⟨c, rest, text, other⟩ := hs
  exact ⟨c, rest ++ t.toList, by simp [text], other⟩

end Criteria.Text
