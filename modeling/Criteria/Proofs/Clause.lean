import Criteria.Condition.Kind
import Criteria.Text.Lines

/-!
# Clauses and how they are read

The logical structure of a condition, apart from what its leaves say, and a reader that finds it
again in the text. A leaf is told from a group and from a negation by what follows its first
parenthesis, and ends where this parenthesis is closed.
-/

namespace Criteria

open Text

inductive Clause where
  | leaf (text : String)
  /-- At least two clauses that are joined. -/
  | group (connective : Connective) (first second : Clause) (others : List Clause)
  | negation (inner : Clause)

namespace Clause

def separator (k : Connective) : String := " " ++ k.name ++ " "

mutual

def text : Clause → String
  | leaf text => text
  | group k first second others =>
    "(" ++ first.text ++ separator k ++ second.text ++ behind k others ++ ")"
  | negation inner => "(NOT " ++ inner.text ++ ")"

/-- Further clauses of a group, each behind a separator. -/
def behind (k : Connective) : List Clause → String
  | [] => ""
  | c :: others => separator k ++ c.text ++ behind k others

end

def opensGroup (s : List Char) : Bool := (dropLead? "((".toList s).isSome

def opensNegation (s : List Char) : Bool := (dropLead? "(NOT (".toList s).isSome

/-- How many parentheses are open after a character, unless it closes the last one. -/
def depthAfter (depth : Nat) (c : Char) : Option Nat :=
  if c = '(' then some (depth + 1)
  else if c = ')' then (if depth = 0 then none else some (depth - 1))
  else some depth

/-- Cuts behind the parenthesis that closes one opened before, where further ones have been opened
since. -/
def closing (depth : Nat) : List Char → Option (List Char × List Char)
  | [] => none
  | c :: s =>
    match depthAfter depth c with
    | none => some ([c], s)
    | some depth => (closing depth s).map fun cut => (c :: cut.1, cut.2)

def readLeaf : List Char → Option (Clause × List Char)
  | '(' :: s => (closing 0 s).map fun cut => (leaf (String.ofList ('(' :: cut.1)), cut.2)
  | _ => none

def readConnective (s : List Char) : Option (Connective × List Char) :=
  match dropLead? (separator .and).toList s with
  | some s => some (.and, s)
  | none => (dropLead? (separator .or).toList s).map fun s => (.or, s)

/-- Reads clauses behind separators up to the end of the group. -/
def readOthers (read : List Char → Option (Clause × List Char)) (k : Connective) :
    Nat → List Char → Option (List Clause × List Char)
  | 0, _ => none
  | fuel + 1, s =>
    match dropLead? [')'] s with
    | some s => some ([], s)
    | none => do
      let s ← dropLead? (separator k).toList s
      let (c, s) ← read s
      let (others, s) ← readOthers read k fuel s
      return (c :: others, s)

/-- Reads a clause and gives the rest back. Each clause inside another one is shorter than it, so
that the length of the text is fuel enough. -/
def readFrom : Nat → List Char → Option (Clause × List Char)
  | 0, _ => none
  | fuel + 1, s =>
    if opensGroup s then do
      let (first, s) ← readFrom fuel (s.drop 1)
      let (k, s) ← readConnective s
      let (second, s) ← readFrom fuel s
      let (others, s) ← readOthers (readFrom fuel) k fuel s
      return (group k first second others, s)
    else if opensNegation s then do
      let (inner, s) ← readFrom fuel (s.drop 5)
      let s ← dropLead? [')'] s
      return (negation inner, s)
    else readLeaf s

/-- The clause that a whole text spells. -/
def read? (s : String) : Option Clause :=
  match readFrom s.length s.toList with
  | some (c, []) => some c
  | _ => none

/-- A text that is read as a leaf: one pair of parentheses around something that is neither a group
nor a negation. -/
def IsLeaf (text : String) : Prop :=
  opensGroup text.toList = false ∧ opensNegation text.toList = false ∧
    ∃ inner, text.toList = '(' :: inner ∧ closing 0 inner = some (inner, [])

/-- A clause of the grammar. -/
inductive Proper : Clause → Prop
  | leaf {text : String} (isLeaf : IsLeaf text) : Proper (.leaf text)
  | group {k : Connective} {first second : Clause} {others : List Clause} (first' : Proper first)
      (second' : Proper second) (others' : ∀ c ∈ others, Proper c) :
      Proper (.group k first second others)
  | negation {inner : Clause} (inner' : Proper inner) : Proper (.negation inner)

theorem eq_of_depthAfter {depth : Nat} {c : Char} (h : depthAfter depth c = none) : c = ')' := by
  unfold depthAfter at h
  split at h
  · cases h
  · split at h
    · assumption
    · cases h

theorem mem_of_closing {depth : Nat} {s inner rest : List Char}
    (h : closing depth s = some (inner, rest)) : ')' ∈ inner := by
  induction s generalizing depth inner with
  | nil => cases h
  | cons c s ih =>
    cases after : depthAfter depth c with
    | none =>
      simp only [closing, after] at h
      cases h
      rw [eq_of_depthAfter after]
      exact List.mem_cons_self
    | some depth =>
      simp only [closing, after] at h
      obtain ⟨cut, hcut, same⟩ := Option.map_eq_some_iff.mp h
      cases same
      exact List.mem_cons_of_mem c (ih hcut)

theorem closing_append {depth : Nat} {s inner rest : List Char}
    (h : closing depth s = some (inner, rest)) (more : List Char) :
    closing depth (s ++ more) = some (inner, rest ++ more) := by
  induction s generalizing depth inner with
  | nil => cases h
  | cons c s ih =>
    cases after : depthAfter depth c with
    | none =>
      simp only [closing, after] at h
      cases h
      simp [closing, after]
    | some depth =>
      simp only [closing, after] at h
      obtain ⟨cut, hcut, same⟩ := Option.map_eq_some_iff.mp h
      cases same
      simp [closing, after, ih hcut]

/-- What is cut off is cut off in the same way without the rest. -/
theorem closing_sound {depth : Nat} {s inner rest : List Char}
    (h : closing depth s = some (inner, rest)) :
    s = inner ++ rest ∧ closing depth inner = some (inner, []) := by
  induction s generalizing depth inner with
  | nil => cases h
  | cons c s ih =>
    cases after : depthAfter depth c with
    | none =>
      simp only [closing, after] at h
      cases h
      exact ⟨rfl, by simp [closing, after]⟩
    | some depth =>
      simp only [closing, after] at h
      obtain ⟨cut, hcut, same⟩ := Option.map_eq_some_iff.mp h
      cases same
      obtain ⟨rfl, again⟩ := ih hcut
      exact ⟨rfl, by simp [closing, after, again]⟩

/-- What a closed text begins with does not depend on what follows it. -/
theorem dropLead?_append_isSome {head s : List Char} (open' : ')' ∉ head) (closed : ')' ∈ s)
    (rest : List Char) : (dropLead? head (s ++ rest)).isSome = (dropLead? head s).isSome := by
  rw [Bool.eq_iff_iff, Option.isSome_iff_exists, Option.isSome_iff_exists]
  constructor
  · rintro ⟨behind, h⟩
    have shape := dropLead?_eq_some_iff.mp h
    rcases List.append_eq_append_iff.mp shape with ⟨more, rfl, -⟩ | ⟨more, rfl, -⟩
    · exact absurd (List.mem_append_left more closed) open'
    · exact ⟨more, dropLead?_eq_some_iff.mpr rfl⟩
  · rintro ⟨behind, h⟩
    obtain rfl := dropLead?_eq_some_iff.mp h
    exact ⟨behind ++ rest, dropLead?_eq_some_iff.mpr (List.append_assoc _ _ _)⟩

theorem opensGroup_append {s : List Char} (closed : ')' ∈ s) (rest : List Char) :
    opensGroup (s ++ rest) = opensGroup s :=
  dropLead?_append_isSome (by decide) closed rest

theorem opensNegation_append {s : List Char} (closed : ')' ∈ s) (rest : List Char) :
    opensNegation (s ++ rest) = opensNegation s :=
  dropLead?_append_isSome (by decide) closed rest

theorem mem_of_isLeaf {text : String} (isLeaf : IsLeaf text) : ')' ∈ text.toList := by
  obtain ⟨-, -, inner, shape, cut⟩ := isLeaf
  rw [shape]
  exact List.mem_cons_of_mem _ (mem_of_closing cut)

/-- Every clause begins with a parenthesis. -/
theorem text_of_proper {c : Clause} (proper : c.Proper) :
    ∃ rest, c.text.toList = '(' :: rest := by
  cases proper with
  | leaf isLeaf =>
    obtain ⟨-, -, inner, shape, -⟩ := isLeaf
    exact ⟨inner, by rw [text, shape]⟩
  | group => exact ⟨_, by simp [text]; rfl⟩
  | negation => exact ⟨_, by simp [text]; rfl⟩

theorem length_pos_of_proper {c : Clause} (proper : c.Proper) : 0 < c.text.length := by
  obtain ⟨rest, opening⟩ := text_of_proper proper
  rw [← String.length_toList, opening]
  exact Nat.zero_lt_succ _

/-! The reader finds each clause that is printed. -/

theorem readConnective_separator (k : Connective) (rest : List Char) :
    readConnective ((separator k).toList ++ rest) = some (k, rest) := by
  cases k <;> rfl

theorem length_separator_pos (k : Connective) : 0 < (separator k).length := by
  cases k <;> decide

theorem length_group (k : Connective) (first second : Clause) (others : List Clause) :
    (group k first second others).text.length = first.text.length + (separator k).length +
      second.text.length + (behind k others).length + 2 := by
  have opening : "(".length = 1 := rfl
  have closing : ")".length = 1 := rfl
  simp only [text, String.length_append, opening, closing]
  omega

theorem length_negation (inner : Clause) :
    (negation inner).text.length = inner.text.length + 6 := by
  have opening : "(NOT ".length = 5 := rfl
  have closing : ")".length = 1 := rfl
  simp only [text, String.length_append, opening, closing]
  omega

theorem length_le_behind {k : Connective} {others : List Clause} {c : Clause} (hc : c ∈ others) :
    c.text.length ≤ (behind k others).length := by
  induction others with
  | nil => cases hc
  | cons d others ih =>
    simp only [behind, String.length_append]
    rcases List.mem_cons.mp hc with rfl | hc
    · omega
    · have := ih hc
      omega

theorem readOthers_behind {read : List Char → Option (Clause × List Char)} {k : Connective}
    {others : List Clause}
    (each : ∀ c ∈ others, ∀ rest, read (c.text.toList ++ rest) = some (c, rest)) {fuel : Nat}
    (enough : (behind k others).length < fuel) (rest : List Char) :
    readOthers read k fuel ((behind k others).toList ++ ')' :: rest) = some (others, rest) := by
  induction others generalizing fuel with
  | nil =>
    obtain ⟨fuel, rfl⟩ := Nat.exists_eq_add_one_of_ne_zero (Nat.ne_zero_of_lt enough)
    rfl
  | cons c others ih =>
    obtain ⟨fuel, rfl⟩ := Nat.exists_eq_add_one_of_ne_zero (Nat.ne_zero_of_lt enough)
    rw [List.forall_mem_cons] at each
    have enough : (behind k others).length < fuel := by
      have apart := length_separator_pos k
      simp only [behind, String.length_append] at enough
      omega
    have shape : (behind k (c :: others)).toList ++ ')' :: rest =
        (separator k).toList ++ (c.text.toList ++ ((behind k others).toList ++ ')' :: rest)) := by
      simp [behind]
    have more : dropLead? [')'] ((separator k).toList ++
        (c.text.toList ++ ((behind k others).toList ++ ')' :: rest))) = none := by
      cases k <;> rfl
    have found : dropLead? (separator k).toList ((separator k).toList ++
        (c.text.toList ++ ((behind k others).toList ++ ')' :: rest))) =
        some (c.text.toList ++ ((behind k others).toList ++ ')' :: rest)) :=
      dropLead?_eq_some_iff.mpr rfl
    rw [shape]
    simp only [readOthers, more, found, Option.bind_eq_bind, Option.bind_some, each.1,
      ih each.2 enough]
    rfl

theorem readFrom_leaf {text : String} (isLeaf : IsLeaf text) (fuel : Nat) (rest : List Char) :
    readFrom (fuel + 1) (text.toList ++ rest) = some (leaf text, rest) := by
  have closed := mem_of_isLeaf isLeaf
  obtain ⟨noGroup, noNegation, inner, shape, cut⟩ := isLeaf
  have noGroup := (opensGroup_append closed rest).trans noGroup
  have noNegation := (opensNegation_append closed rest).trans noNegation
  have again : String.ofList ('(' :: inner) = text := by rw [← shape, String.ofList_toList]
  rw [readFrom, noGroup, noNegation, shape]
  simp only [Bool.false_eq_true, if_false, List.cons_append, readLeaf, closing_append cut,
    Option.map_some, again, List.nil_append]

theorem readFrom_group {fuel : Nat} {k : Connective} {first second : Clause}
    {others : List Clause} (opening : ∃ tail, first.text.toList = '(' :: tail)
    (each : ∀ c ∈ first :: second :: others, ∀ rest,
      readFrom fuel (c.text.toList ++ rest) = some (c, rest))
    (enough : (behind k others).length < fuel) (rest : List Char) :
    readFrom (fuel + 1) ((group k first second others).text.toList ++ rest) =
      some (group k first second others, rest) := by
  rw [List.forall_mem_cons, List.forall_mem_cons] at each
  obtain ⟨one, two, each⟩ := each
  obtain ⟨tail, opening⟩ := opening
  have shape : (group k first second others).text.toList ++ rest =
      '(' :: (first.text.toList ++ ((separator k).toList ++ (second.text.toList ++
        ((behind k others).toList ++ ')' :: rest)))) := by simp [text]
  have opens : opensGroup ('(' :: (first.text.toList ++ ((separator k).toList ++
      (second.text.toList ++ ((behind k others).toList ++ ')' :: rest))))) = true := by
    rw [opening]
    rfl
  have more := readOthers_behind each enough rest
  rw [shape]
  simp only [readFrom, opens, if_true, List.drop_succ_cons, List.drop_zero, one,
    readConnective_separator, two, more, Option.bind_eq_bind, Option.bind_some, Option.pure_def]

theorem readFrom_negation {fuel : Nat} {inner : Clause}
    (opening : ∃ tail, inner.text.toList = '(' :: tail)
    (found : ∀ rest, readFrom fuel (inner.text.toList ++ rest) = some (inner, rest))
    (rest : List Char) :
    readFrom (fuel + 1) ((negation inner).text.toList ++ rest) = some (negation inner, rest) := by
  obtain ⟨tail, opening⟩ := opening
  have shape : (negation inner).text.toList ++ rest =
      '(' :: 'N' :: 'O' :: 'T' :: ' ' :: (inner.text.toList ++ ')' :: rest) := by simp [text]
  have noGroup : opensGroup ('(' :: 'N' :: 'O' :: 'T' :: ' ' ::
      (inner.text.toList ++ ')' :: rest)) = false := rfl
  have opens : opensNegation ('(' :: 'N' :: 'O' :: 'T' :: ' ' ::
      (inner.text.toList ++ ')' :: rest)) = true := by
    rw [opening]
    rfl
  have closed : dropLead? [')'] (')' :: rest) = some rest := dropLead?_eq_some_iff.mpr rfl
  rw [shape]
  simp only [readFrom, noGroup, Bool.false_eq_true, if_false, opens, if_true,
    List.drop_succ_cons, List.drop_zero, found, closed, Option.bind_eq_bind, Option.bind_some,
    Option.pure_def]

theorem readFrom_text {c : Clause} (proper : c.Proper) {fuel : Nat}
    (enough : c.text.length ≤ fuel) (rest : List Char) :
    readFrom fuel (c.text.toList ++ rest) = some (c, rest) := by
  induction proper generalizing fuel rest with
  | leaf isLeaf =>
    have filled := length_pos_of_proper (.leaf isLeaf)
    obtain ⟨fuel, rfl⟩ : ∃ n, fuel = n + 1 := ⟨fuel - 1, by omega⟩
    exact readFrom_leaf isLeaf fuel rest
  | @group k first second others first' second' others' ihFirst ihSecond ihOthers =>
    have length := length_group k first second others
    have apart := length_separator_pos k
    obtain ⟨fuel, rfl⟩ : ∃ n, fuel = n + 1 := ⟨fuel - 1, by omega⟩
    apply readFrom_group (text_of_proper first')
    · rw [List.forall_mem_cons, List.forall_mem_cons]
      refine ⟨ihFirst (by omega), ihSecond (by omega), ?_⟩
      intro c hc
      have shorter := length_le_behind (k := k) hc
      exact ihOthers c hc (by omega)
    · omega
  | @negation inner inner' ih =>
    have length := length_negation inner
    obtain ⟨fuel, rfl⟩ : ∃ n, fuel = n + 1 := ⟨fuel - 1, by omega⟩
    exact readFrom_negation (text_of_proper inner') (ih (by omega)) rest

/-! The reader finds nothing else. -/

theorem readConnective_sound {s rest : List Char} {k : Connective}
    (h : readConnective s = some (k, rest)) : s = (separator k).toList ++ rest := by
  unfold readConnective at h
  cases conj : dropLead? (separator .and).toList s with
  | some behind =>
    rw [conj] at h
    cases h
    exact dropLead?_eq_some_iff.mp conj
  | none =>
    rw [conj] at h
    obtain ⟨behind, disj, same⟩ := Option.map_eq_some_iff.mp h
    cases same
    exact dropLead?_eq_some_iff.mp disj

theorem readLeaf_sound {s rest : List Char} {c : Clause} (h : readLeaf s = some (c, rest))
    (noGroup : opensGroup s = false) (noNegation : opensNegation s = false) :
    c.Proper ∧ s = c.text.toList ++ rest := by
  unfold readLeaf at h
  split at h
  · rename_i s
    obtain ⟨⟨inner, behind⟩, cut, same⟩ := Option.map_eq_some_iff.mp h
    cases same
    obtain ⟨rfl, again⟩ := closing_sound cut
    have closed : ')' ∈ '(' :: inner := List.mem_cons_of_mem _ (mem_of_closing cut)
    rw [← List.cons_append] at noGroup noNegation
    rw [opensGroup_append closed] at noGroup
    rw [opensNegation_append closed] at noNegation
    refine ⟨.leaf ⟨?_, ?_, inner, ?_, again⟩, ?_⟩
    · rwa [String.toList_ofList]
    · rwa [String.toList_ofList]
    · rw [String.toList_ofList]
    · rw [text, String.toList_ofList]
      rfl
  · cases h

/-- What a reader finds is a clause of the grammar, and stands in front of what it gives back. -/
def Sound (read : List Char → Option (Clause × List Char)) : Prop :=
  ∀ s c rest, read s = some (c, rest) → c.Proper ∧ s = c.text.toList ++ rest

theorem readOthers_sound {read : List Char → Option (Clause × List Char)} {k : Connective}
    (sound : Sound read) {fuel : Nat} {s rest : List Char} {others : List Clause}
    (h : readOthers read k fuel s = some (others, rest)) :
    (∀ c ∈ others, c.Proper) ∧ s = (behind k others).toList ++ ')' :: rest := by
  induction fuel generalizing s others with
  | zero => cases h
  | succ fuel ih =>
    cases closed : dropLead? [')'] s with
    | some behind =>
      simp only [readOthers, closed] at h
      cases h
      exact ⟨nofun, by simpa [Clause.behind] using dropLead?_eq_some_iff.mp closed⟩
    | none =>
      simp only [readOthers, closed, Option.bind_eq_bind, Option.bind_eq_some_iff] at h
      obtain ⟨s₁, apart, ⟨c, s₂⟩, hc, ⟨more, s₃⟩, hmore, same⟩ := h
      cases same
      obtain ⟨proper, rfl⟩ := sound s₁ c s₂ hc
      obtain ⟨propers, rfl⟩ := ih hmore
      rw [dropLead?_eq_some_iff] at apart
      refine ⟨List.forall_mem_cons.mpr ⟨proper, propers⟩, ?_⟩
      rw [apart]
      simp [behind]

theorem readFrom_sound_of_opensGroup {fuel : Nat} (sound : Sound (readFrom fuel))
    {s rest : List Char} {c : Clause} (opens : opensGroup s = true)
    (h : readFrom (fuel + 1) s = some (c, rest)) : c.Proper ∧ s = c.text.toList ++ rest := by
  simp only [readFrom, opens, if_true, Option.bind_eq_bind, Option.bind_eq_some_iff] at h
  obtain ⟨⟨first, s₁⟩, hfirst, ⟨k, s₂⟩, hk, ⟨second, s₃⟩, hsecond, ⟨others, s₄⟩, hothers,
    same⟩ := h
  cases same
  obtain ⟨inner, front⟩ := Option.isSome_iff_exists.mp opens
  have front : s = "((".toList ++ inner := dropLead?_eq_some_iff.mp front
  obtain ⟨first', shape⟩ := sound _ _ _ hfirst
  have apart : s₁ = (separator k).toList ++ s₂ := readConnective_sound hk
  obtain ⟨second', next⟩ : second.Proper ∧ s₂ = second.text.toList ++ s₃ :=
    sound _ _ _ hsecond
  obtain ⟨others', last⟩ : (∀ c ∈ others, c.Proper) ∧
      s₃ = (behind k others).toList ++ ')' :: s₄ := readOthers_sound sound hothers
  refine ⟨.group first' second' others', ?_⟩
  calc
    s = '(' :: s.drop 1 := by
      rw [front]
      rfl
    _ = _ := by
      rw [shape, apart, next, last]
      simp [text]

theorem readFrom_sound_of_opensNegation {fuel : Nat} (sound : Sound (readFrom fuel))
    {s rest : List Char} {c : Clause} (noGroup : opensGroup s = false)
    (opens : opensNegation s = true) (h : readFrom (fuel + 1) s = some (c, rest)) :
    c.Proper ∧ s = c.text.toList ++ rest := by
  simp only [readFrom, noGroup, opens, Bool.false_eq_true, if_false, if_true,
    Option.bind_eq_bind, Option.bind_eq_some_iff] at h
  obtain ⟨⟨inner, s₁⟩, hinner, s₂, closed, same⟩ := h
  cases same
  obtain ⟨tail, front⟩ := Option.isSome_iff_exists.mp opens
  have front : s = "(NOT (".toList ++ tail := dropLead?_eq_some_iff.mp front
  obtain ⟨inner', shape⟩ := sound _ _ _ hinner
  have last : s₁ = [')'] ++ rest := dropLead?_eq_some_iff.mp closed
  refine ⟨.negation inner', ?_⟩
  calc
    s = '(' :: 'N' :: 'O' :: 'T' :: ' ' :: s.drop 5 := by
      rw [front]
      rfl
    _ = _ := by
      rw [shape, last]
      simp [text]

theorem readFrom_sound (fuel : Nat) : Sound (readFrom fuel) := by
  induction fuel with
  | zero => exact nofun
  | succ fuel ih =>
    intro s c rest h
    cases group : opensGroup s with
    | true => exact readFrom_sound_of_opensGroup ih group h
    | false =>
      cases negation : opensNegation s with
      | true => exact readFrom_sound_of_opensNegation ih group negation h
      | false =>
        simp only [readFrom, group, negation, Bool.false_eq_true, if_false] at h
        exact readLeaf_sound h group negation

/-- The reader is a parser for the grammar: it finds the one clause that has the text, if there is
one. -/
theorem read?_eq_some_iff {s : String} {c : Clause} :
    read? s = some c ↔ c.Proper ∧ c.text = s := by
  constructor
  · intro h
    unfold read? at h
    split at h
    · rename_i found
      cases h
      obtain ⟨proper, shape⟩ := readFrom_sound _ _ _ _ found
      rw [List.append_nil] at shape
      exact ⟨proper, (String.toList_inj.mp shape).symm⟩
    · cases h
  · rintro ⟨proper, rfl⟩
    have found := readFrom_text proper (Nat.le_refl _) []
    rw [List.append_nil] at found
    rw [read?, found]

example : read? "((a = 1) AND (NOT ((b IN (%(p0)s)) OR (NOT IS NULL))))" =
    some (.group .and (.leaf "(a = 1)")
      (.negation (.group .or (.leaf "(b IN (%(p0)s))") (.leaf "(NOT IS NULL)") [])) []) := by
  rfl

end Clause
end Criteria
