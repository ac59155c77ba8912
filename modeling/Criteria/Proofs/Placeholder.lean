import Criteria.Dialect.BuiltIn
import Criteria.Proofs.Characters
import Criteria.Text.Lines

/-!
# Placeholders in a text

The placeholders of a dialect, found again in a text from left to right. What a part of a text
yields does not depend on what stands before it, and on what follows only where a part ends in a
placeholder: a character that continues an identifier would lengthen its name.
-/

namespace Criteria

namespace Text

theorem takeWhile_identifier {name rest : List Char} {c : Char}
    (all : ∀ a ∈ name, isIdentifierRest a = true) (stop : isIdentifierRest c = false) :
    (name ++ c :: rest).takeWhile isIdentifierRest = name := by
  rw [List.takeWhile_append_of_pos all, List.takeWhile_cons, stop]
  simp

end Text

namespace Marker

open Text

/-- The name in the placeholder that a text begins with: the longest run of identifier characters
between the two sides of the marker. -/
def nameAtFront? (m : Marker) (s : List Char) : Option (List Char) :=
  match dropLead? m.before.toList s with
  | none => none
  | some s =>
    let name := s.takeWhile isIdentifierRest
    if name.isEmpty || (dropLead? m.after.toList (s.drop name.length)).isNone then none
    else some name

/-- The names in a text. The number counts the characters of a placeholder already found that are
still to be skipped. -/
def namesFrom (m : Marker) : Nat → List Char → List String
  | _, [] => []
  | skip + 1, _ :: s => namesFrom m skip s
  | 0, c :: s =>
    match m.nameAtFront? (c :: s) with
    | some name =>
      let placeholder := m.around (String.ofList name)
      String.ofList name :: namesFrom m (placeholder.length - 1) s
    | none => namesFrom m 0 s

/-- The names of the placeholders in a text, from left to right and with repetitions. -/
def scan (m : Marker) (s : String) : List String := m.namesFrom 0 s.toList

/-- What makes placeholders recognizable: they begin with a character of their own, and the name is
not continued by what stands behind it. -/
structure Legible (m : Marker) : Prop where
  begins : ∃ c rest, m.before.toList = c :: rest ∧ c ∈ ['@', ':', '%']
  ends : m.after = "" ∨ Delimits m.after

theorem legible_of_builtIn {d : Dialect} (builtIn : d ∈ Dialect.builtIn) : d.marker.Legible := by
  have known := Dialect.marker_of_builtIn d builtIn
  simp only [List.mem_cons, List.not_mem_nil, or_false] at known
  rcases known with marker | marker | marker
  · rw [marker]
    exact ⟨⟨'@', [], rfl, by decide⟩, .inl rfl⟩
  · rw [marker]
    exact ⟨⟨':', [], rfl, by decide⟩, .inl rfl⟩
  · rw [marker]
    exact ⟨⟨'%', ['('], rfl, by decide⟩, .inr ⟨')', ['s'], rfl, by decide⟩⟩

/-- The text contains placeholders of these names, whatever follows it. -/
def Yields (m : Marker) (s : String) (names : List String) : Prop :=
  ∀ rest, m.namesFrom 0 (s.toList ++ rest) = names ++ m.namesFrom 0 rest

/-- The text contains placeholders of these names, if what follows ends an identifier. -/
def YieldsBefore (m : Marker) (s : String) (names : List String) : Prop :=
  ∀ c rest, isIdentifierRest c = false →
    m.namesFrom 0 (s.toList ++ c :: rest) = names ++ m.namesFrom 0 (c :: rest)

variable {m : Marker} {s t : String} {a b : List String}

theorem scan_of_yields (h : m.Yields s a) : m.scan s = a := by
  simpa [scan, namesFrom] using h []

theorem yields_empty : m.Yields "" [] := fun _ => rfl

theorem yields_append (hs : m.Yields s a) (ht : m.Yields t b) : m.Yields (s ++ t) (a ++ b) := by
  intro rest
  rw [String.toList_append, List.append_assoc, hs, ht, List.append_assoc]

theorem Yields.before (h : m.Yields s a) : m.YieldsBefore s a := fun c rest _ => h (c :: rest)

theorem yields_append_of_delimits (hs : m.YieldsBefore s a) (ht : m.Yields t b)
    (stop : Delimits t) : m.Yields (s ++ t) (a ++ b) := by
  obtain ⟨c, t', text, stop⟩ := stop
  intro rest
  have behind := ht rest
  rw [text] at behind
  rw [String.toList_append, List.append_assoc, text, List.cons_append, hs c _ stop,
    ← List.cons_append, behind, List.append_assoc]

theorem yieldsBefore_append (hs : m.Yields s a) (ht : m.YieldsBefore t b) :
    m.YieldsBefore (s ++ t) (a ++ b) := by
  intro c rest stop
  rw [String.toList_append, List.append_assoc, hs, ht c rest stop, List.append_assoc]

theorem nameAtFront?_eq_none (legible : m.Legible) {c : Char} (clean : c ∉ ['@', ':', '%'])
    (rest : List Char) : m.nameAtFront? (c :: rest) = none := by
  obtain ⟨first, before, text, marked⟩ := legible.begins
  have other : first ≠ c := by
    rintro rfl
    exact clean marked
  simp [nameAtFront?, text, dropLead?, other]

theorem yields_of_unmarked (legible : m.Legible) (clean : Unmarked s) : m.Yields s [] := by
  intro rest
  unfold Unmarked Lacks at clean
  generalize s.toList = s at clean
  induction s with
  | nil => rfl
  | cons c s ih =>
    rw [List.forall_mem_cons] at clean
    rw [List.cons_append, namesFrom, nameAtFront?_eq_none legible clean.1]
    exact ih clean.2

theorem namesFrom_skip (skipped rest : List Char) :
    m.namesFrom skipped.length (skipped ++ rest) = m.namesFrom 0 rest := by
  induction skipped with
  | nil => rfl
  | cons c skipped ih => exact ih

theorem nameAtFront?_around (legible : m.Legible) {name : String}
    (identifier : isIdentifier name = true) {c : Char} (stop : isIdentifierRest c = false)
    (rest : List Char) :
    m.nameAtFront? ((m.around name).toList ++ c :: rest) = some name.toList := by
  have text : (m.around name).toList ++ c :: rest =
      m.before.toList ++ (name.toList ++ (m.after.toList ++ c :: rest)) := by simp [around]
  have front : dropLead? m.before.toList ((m.around name).toList ++ c :: rest) =
      some (name.toList ++ (m.after.toList ++ c :: rest)) := dropLead?_eq_some_iff.mpr text
  have behind : dropLead? m.after.toList (m.after.toList ++ c :: rest) = some (c :: rest) :=
    dropLead?_eq_some_iff.mpr rfl
  have run : (name.toList ++ (m.after.toList ++ c :: rest)).takeWhile isIdentifierRest =
      name.toList := by
    rcases legible.ends with empty | ⟨e, after, text, stop'⟩
    · rw [empty]
      exact takeWhile_identifier (isIdentifierRest_of_mem identifier) stop
    · rw [text]
      exact takeWhile_identifier (isIdentifierRest_of_mem identifier) stop'
  have filled : name.toList ≠ [] := by
    intro empty
    simp [isIdentifier, empty] at identifier
  simp [nameAtFront?, front, run, behind, filled]

/-- A placeholder yields its own name, unless the name goes on. -/
theorem yieldsBefore_around (legible : m.Legible) {name : String}
    (identifier : isIdentifier name = true) : m.YieldsBefore (m.around name) [name] := by
  intro c rest stop
  have found := nameAtFront?_around legible identifier stop rest
  obtain ⟨first, before, text, -⟩ := legible.begins
  have placeholder : (m.around name).toList =
      first :: (before ++ name.toList ++ m.after.toList) := by simp [around, text]
  have length : (m.around name).length - 1 = (before ++ name.toList ++ m.after.toList).length := by
    rw [← String.length_toList, placeholder, List.length_cons, Nat.add_sub_cancel]
  rw [placeholder, List.cons_append] at found ⊢
  simp only [namesFrom, found, String.ofList_toList, length, namesFrom_skip,
    List.singleton_append]

/-- Parts of a text with the names that each of them yields. -/
abbrev Parts := List (String × List String)

theorem yields_intercalate {separator : String} (clean : m.Yields separator []) {parts : Parts}
    (each : ∀ p ∈ parts, m.Yields p.1 p.2) :
    m.Yields (separator.intercalate (parts.map (·.1))) (parts.flatMap (·.2)) := by
  induction parts with
  | nil => exact yields_empty
  | cons p parts ih =>
    rw [List.forall_mem_cons] at each
    cases parts with
    | nil => simpa using each.1
    | cons q parts =>
      have joined := yields_append (yields_append each.1 clean) (ih each.2)
      simpa [String.intercalate_cons_cons, String.append_assoc] using joined

theorem yieldsBefore_intercalate {separator : String} (clean : m.Yields separator [])
    (stop : Delimits separator) {parts : Parts} (each : ∀ p ∈ parts, m.YieldsBefore p.1 p.2) :
    m.YieldsBefore (separator.intercalate (parts.map (·.1))) (parts.flatMap (·.2)) := by
  induction parts with
  | nil => exact yields_empty.before
  | cons p parts ih =>
    rw [List.forall_mem_cons] at each
    cases parts with
    | nil => simpa using each.1
    | cons q parts =>
      have joined := yieldsBefore_append (yields_append_of_delimits each.1 clean stop) (ih each.2)
      simpa [String.intercalate_cons_cons, String.append_assoc] using joined

theorem eq_nil_of_yields_empty (h : m.Yields "" a) : a = [] := by
  simpa [namesFrom] using h []

/-- Parts without a text can be left out. -/
theorem flatMap_filled {parts : Parts} (each : ∀ p ∈ parts, m.Yields p.1 p.2) :
    (parts.filter fun p => p.1 ≠ "").flatMap (·.2) = parts.flatMap (·.2) := by
  induction parts with
  | nil => rfl
  | cons p parts ih =>
    rw [List.forall_mem_cons] at each
    rw [List.flatMap_cons, ← ih each.2]
    by_cases empty : p.1 = ""
    · have nothing : p.2 = [] := eq_nil_of_yields_empty (empty ▸ each.1)
      simp [empty, nothing]
    · simp [empty]

theorem map_filled (parts : Parts) :
    (parts.map (·.1)).filter (· ≠ "") = (parts.filter fun p => p.1 ≠ "").map (·.1) := by
  rw [List.filter_map]
  rfl

theorem yields_lines (legible : m.Legible) {parts : Parts}
    (each : ∀ p ∈ parts, m.Yields p.1 p.2) :
    m.Yields (lines (parts.map (·.1))) (parts.flatMap (·.2)) := by
  have clean : m.Yields "\n" [] := yields_of_unmarked legible (by decide)
  rw [lines, map_filled, ← flatMap_filled each]
  exact yields_intercalate clean fun p hp => each p (List.mem_filter.mp hp).1

/-- A part among lines without markers. -/
theorem yields_lines_around (legible : m.Legible) (before behind : List String)
    (clean : ∀ t ∈ before ++ behind, Unmarked t) (inner : m.Yields s a) :
    m.Yields (lines (before ++ s :: behind)) a := by
  let silent (texts : List String) : Parts := texts.map fun t => (t, [])
  have each : ∀ p ∈ silent before ++ (s, a) :: silent behind, m.Yields p.1 p.2 := by
    intro p hp
    simp only [silent, List.mem_append, List.mem_cons, List.mem_map] at hp
    rcases hp with ⟨t, ht, rfl⟩ | rfl | ⟨t, ht, rfl⟩
    · exact yields_of_unmarked legible (clean t (List.mem_append_left _ ht))
    · exact inner
    · exact yields_of_unmarked legible (clean t (List.mem_append_right _ ht))
  have nothing : ∀ texts, (silent texts).flatMap (·.2) = [] := by
    intro texts
    simp [silent, List.flatMap_eq_nil_iff]
  have whole := yields_lines legible each
  rw [List.flatMap_append, List.flatMap_cons, nothing, nothing] at whole
  simpa [silent, Function.comp_def] using whole

end Marker
end Criteria
