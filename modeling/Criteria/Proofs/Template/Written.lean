import Criteria.Proofs.Template.Plain

/-!
# Writing templates

Templates that are written from texts and slots: the braces of the texts are doubled, and a slot is
its number in braces. Reading such a template gives back what it was written from, whichever
characters the texts have and whatever stands beside a slot.
-/

namespace Criteria.Template

/-- A text that stands for itself, or a slot. -/
inductive Chunk where
  | literal (s : String)
  | slot (k : Nat)
deriving DecidableEq

def isBrace (c : Char) : Bool := c == '{' || c == '}'

/-- Braces are written twice. -/
def doubled (s : List Char) : List Char := s.flatMap fun c => if isBrace c then [c, c] else [c]

namespace Chunk

def written : Chunk → String
  | literal s => String.ofList (doubled s.toList)
  | slot k => "\x7b" ++ k.repr ++ "\x7d"

/-- What stands in the place of a chunk. -/
def filled (texts : List String) : Chunk → String
  | literal s => s
  | slot k => texts.getD k ""

def parts : Chunk → List Part
  | literal s => s.toList.map .char
  | slot k => [.slot k]

end Chunk

def ofChunks (chunks : List Chunk) : String := String.join (chunks.map Chunk.written)

theorem slot_mem_parts {chunks : List Chunk} {k : Nat} :
    .slot k ∈ chunks.flatMap Chunk.parts ↔ .slot k ∈ chunks := by
  rw [List.mem_flatMap]
  constructor
  · rintro ⟨chunk, mem, part⟩
    cases chunk with
    | literal s => simp [Chunk.parts] at part
    | slot n =>
      obtain rfl : k = n := by simpa [Chunk.parts] using part
      exact mem
  · exact fun mem => ⟨.slot k, mem, List.mem_singleton_self _⟩

/-- The pieces with one more in front. -/
def Pieces.after (rest : Pieces) (front : List Part) : Pieces :=
  ⟨front.map Part.piece ++ rest.pieces, rest.fault⟩

theorem Pieces.after_after (rest : Pieces) (front others : List Part) :
    (rest.after others).after front = rest.after (front ++ others) := by
  simp [after]

theorem parseFrom_char (c : Char) (s : List Char) :
    parseFrom .text (doubled [c] ++ s) = (parseFrom .text s).after [.char c] := by
  by_cases opening : c = '{'
  · subst opening
    rfl
  · by_cases closing : c = '}'
    · subst closing
      rfl
    · simp [doubled, isBrace, parseFrom, Place.step, opening, closing, Pieces.after, Part.piece]

theorem parseFrom_doubled (text s : List Char) :
    parseFrom .text (doubled text ++ s) = (parseFrom .text s).after (text.map .char) := by
  induction text with
  | nil => rfl
  | cons c text ih =>
    have split : doubled (c :: text) = doubled [c] ++ doubled text := by simp [doubled]
    rw [split, List.append_assoc, parseFrom_char, ih, Pieces.after_after]
    rfl

/-- A digit is part of a name. -/
theorem nameStep_digit {c : Char} (digit : c.isDigit = true) (read : List Char) :
    Place.nameStep read c = .ok (.name (c :: read), none) := by
  have other : ∀ d : Char, d.isDigit = false → c ≠ d := by
    rintro d plain rfl
    rw [digit] at plain
    cases plain
  rw [Place.nameStep, if_neg (other '{' rfl), if_neg (other '[' rfl), if_neg (other '}' rfl),
    if_neg (other '!' rfl), if_neg (other ':' rfl)]

theorem parseFrom_name {digits : List Char} (all : ∀ c ∈ digits, c.isDigit = true)
    (read s : List Char) :
    parseFrom (.name read) (digits ++ '}' :: s) =
      ⟨.field ⟨(digits.reverse ++ read).reverse, none, []⟩ :: (parseFrom .text s).pieces,
        (parseFrom .text s).fault⟩ := by
  induction digits generalizing read with
  | nil => rfl
  | cons c digits ih =>
    rw [List.forall_mem_cons] at all
    rw [List.cons_append, parseFrom, Place.step, nameStep_digit all.1]
    simp [ih all.2]

theorem parseFrom_slot (k : Nat) (s : List Char) :
    parseFrom .text ((Chunk.slot k).written.toList ++ s) =
      (parseFrom .text s).after [.slot k] := by
  have all : ∀ c ∈ k.repr.toList, c.isDigit = true := fun c hc => isDigit_of_mem_repr hc
  have whole : (Chunk.slot k).written.toList ++ s = '{' :: (k.repr.toList ++ '}' :: s) := by
    simp [Chunk.written]
  rw [whole]
  cases digits : k.repr.toList with
  | nil => simp at digits
  | cons c others =>
    rw [digits, List.forall_mem_cons] at all
    have brace : c ≠ '{' := by
      rintro rfl
      exact absurd all.1 (by decide)
    change parseFrom .opened (c :: (others ++ '}' :: s)) = _
    rw [parseFrom, Place.step, if_neg brace, nameStep_digit all.1]
    simp [parseFrom_name all.2, Pieces.after, Part.piece, digits]

/-- A written template is read as the texts and slots that it was written from. -/
theorem parse_ofChunks (chunks : List Chunk) :
    parse (ofChunks chunks).toList = ⟨(chunks.flatMap Chunk.parts).map Part.piece, none⟩ := by
  -- By induction for every text behind: a brace that follows must not change how a chunk is read.
  have read : ∀ s, parseFrom .text ((ofChunks chunks).toList ++ s) =
      (parseFrom .text s).after (chunks.flatMap Chunk.parts) := by
    intro s
    induction chunks with
    | nil => rfl
    | cons chunk chunks ih =>
      rw [ofChunks, List.map_cons, String.join_cons, String.toList_append, List.append_assoc,
        List.flatMap_cons, ← Pieces.after_after, ← ih]
      cases chunk with
      | literal text =>
        rw [Chunk.written, String.toList_ofList, parseFrom_doubled]
        rfl
      | slot k => exact parseFrom_slot k _
  have whole := read []
  rw [List.append_nil] at whole
  rw [parse, whole]
  exact congrArg (Pieces.mk · none) (List.append_nil _)

/-- Reading takes at least one character for each piece. -/
theorem length_pieces_le (place : Place) (s : List Char) :
    (parseFrom place s).pieces.length ≤ s.length := by
  induction s generalizing place with
  | nil => exact Nat.le_refl 0
  | cons c s ih =>
    rw [parseFrom]
    cases place.step c with
    | error fault => exact Nat.zero_le _
    | ok next =>
      obtain ⟨next, piece⟩ := next
      have rest := ih next
      have few : piece.toList.length ≤ 1 := by cases piece <;> simp
      simp only [List.length_append, List.length_cons]
      omega

end Criteria.Template
