import Criteria.Condition.Construction
import Criteria.Proofs.Calendar
import Criteria.Proofs.Number.Integer

/-!
# Values written into statements

A value that is written into a statement, instead of being bound, can be read back from there as a
literal of its own kind.
-/

namespace Criteria

namespace Text

/-- Each digit that is written has a value. -/
theorem isSome_hexValue?_of_mem {width n : Nat} :
    ∀ c ∈ hexDigits width n, (hexValue? c).isSome = true := by
  induction width generalizing n with
  | zero => exact nofun
  | succ width ih =>
    intro c hc
    rcases List.mem_append.mp hc with front | last
    · exact ih c front
    · rw [List.mem_singleton.mp last, hexValue?_digitChar (Nat.mod_lt n (by decide))]
      rfl

end Text

namespace Guid

open Text

theorem ofDigits?_hexDigits (g : Guid) : ofDigits? (hexDigits 32 g.value) = some g := by
  have fits : g.value < Nat.pow 16 32 := Nat.lt_of_lt_of_le g.valid (by decide)
  rw [ofDigits?, if_pos (length_hexDigits 32 g.value), hexNumber?_hexDigits fits]
  exact dif_pos g.valid

/-- No wrapper begins with a digit. -/
theorem unwrap?_hyphenated {digits : List Char} (filled : digits ≠ [])
    (each : ∀ c ∈ digits, (hexValue? c).isSome = true) : unwrap? (hyphenated digits) = none := by
  obtain ⟨c, rest, rfl⟩ := List.exists_cons_of_ne_nil filled
  have first := each c List.mem_cons_self
  have brace : c ≠ '{' := by
    rintro rfl
    exact absurd first (by decide)
  have letter : 'u' ≠ c := by
    rintro rfl
    exact absurd first (by decide)
  have front : ∃ s, hyphenated (c :: rest) = c :: s := ⟨_, rfl⟩
  obtain ⟨s, front⟩ := front
  rw [front, unwrap?.eq_2 _ fun t h => brace (List.head_eq_of_cons_eq h)]
  exact if_neg letter

theorem readChars?_chars (g : Guid) : readChars? g.chars = some g := by
  have each := @isSome_hexValue?_of_mem 32 g.value
  have length := length_hexDigits 32 g.value
  have bare : ∀ c ∈ hexDigits 32 g.value, c ≠ '-' := by
    rintro _ mem rfl
    exact absurd (each '-' mem) (by decide)
  have filled : hexDigits 32 g.value ≠ [] := List.ne_nil_of_length_pos (by rw [length]; decide)
  have long : (hyphenated (hexDigits 32 g.value)).length ≠ 32 := by
    simp [hyphenated, length]
  have grouped := filter_hyphenated bare
  rw [readChars?, chars, unwrap?_hyphenated filled each]
  simp only [ofDigits?, if_neg long]
  rw [Option.orElse_none, ofGroups?]
  simp only [grouped, if_true]
  exact ofDigits?_hexDigits g

end Guid

namespace Value

/-- A truth value, an integer that is not too long to be written, or a finite decimal number. -/
inductive IsExact : Value → Prop
  | bool (b : Bool) : IsExact (.bool b)
  | int {n : Int} (short : (Nat.toDigits 10 n.natAbs).length ≤ Numeral.maxDigits) : IsExact (.int n)
  | decimal {d : Decimal} (finite : d.isFinite = true) : IsExact (.decimal d)

theorem readBoolean?_boolText (b : Bool) : DataType.readBoolean? (boolText b) = some b := by
  cases b <;> decide

theorem integerText_of_length {n : Int}
    (short : (Nat.toDigits 10 n.natAbs).length ≤ Numeral.maxDigits) :
    integerText n = .ok n.repr := by
  have length : n.natAbs.repr.length = (Nat.toDigits 10 n.natAbs).length := by
    rw [← String.length_toList, Nat.toList_repr]
  have short : Numeral.Short n.natAbs := by
    rw [Numeral.Short, length]
    exact short
  rw [integerText, if_pos short]

/-- A number has a text, and is read back from it as the one that it is. -/
theorem read?_toText_of_isExact {v : Value} (exact : v.IsExact) :
    ∃ text, v.toText = .ok text ∧ (DataType.infer v).read? text = some v := by
  cases exact with
  | bool b => exact ⟨_, rfl, congrArg (Option.map Value.bool) (readBoolean?_boolText b)⟩
  | int short =>
    exact ⟨_, integerText_of_length short,
      congrArg (Option.map Value.int) (DataType.readInteger?_repr short)⟩
  | decimal finite =>
    refine ⟨_, rfl, ?_⟩
    simp only [DataType.infer, DataType.read?, DataType.readDecimal?,
      Decimal.read?_toText finite, Option.filter_some, finite, if_true, Option.map_some]

/-- A day, a moment, a time of day or an identifier. -/
inductive IsStamp : Value → Prop
  | date (d : Date) : IsStamp (.date d)
  | datetime (t : DateTime) : IsStamp (.datetime t)
  | time (t : Time) : IsStamp (.time t)
  | guid (g : Guid) : IsStamp (.guid g)

theorem read?_toText_of_isStamp {v : Value} (stamp : v.IsStamp) :
    ∃ text, v.toText = .ok text ∧ (DataType.infer v).read? text = some v := by
  cases stamp with
  | date d =>
    refine ⟨_, rfl, ?_⟩
    rw [DataType.infer, DataType.read?, Date.toText, String.toList_ofList,
      Date.readChars?_chars, Option.map_some]
  | datetime t =>
    refine ⟨_, rfl, ?_⟩
    rw [DataType.infer, DataType.read?, DateTime.toTextWith, String.toList_ofList,
      DateTime.readChars?_chars (by decide), Option.map_some]
  | time t =>
    refine ⟨_, rfl, ?_⟩
    rw [DataType.infer, DataType.read?, Time.toText, String.toList_ofList,
      Time.readChars?_chars, Option.map_some]
  | guid g =>
    refine ⟨_, rfl, ?_⟩
    rw [DataType.infer, DataType.read?, Guid.toText, String.toList_ofList,
      Guid.readChars?_chars, Option.map_some]

end Value

namespace Command

/-- A number that is written into a statement is a literal of its own kind, and reads as itself: a
decimal number has the sign, the coefficient and the scale that it was given with. -/
theorem read?_of_literal {column : String} (visible : Text.isBlank column = false) {v : Value}
    (exact : v.IsExact) (s : Supply) :
    ∃ p t, (literal (some column) v none).run.run s = (.ok p, t) ∧
      ∃ text, p.text = .ok text ∧ (DataType.infer v).read? text = some v := by
  refine ⟨_, _, run_literal visible v none s, ?_⟩
  exact Value.read?_toText_of_isExact exact

/-- A negative zero with places, and an integer with zeros behind. -/
theorem read?_of_literal_zeros :
    (∃ p t, (literal (some "price")
        (.decimal (.finite true 0 (-2) ⟨by decide, by decide⟩)) none).run.run ⟨4, 0⟩ = (.ok p, t) ∧
      ∃ text, p.text = .ok text ∧
        DataType.decimal.read? text = some (.decimal (.finite true 0 (-2) ⟨by decide, by decide⟩))) ∧
    ∃ p t, (literal (some "price") (.int (-1000)) none).run.run ⟨4, 0⟩ = (.ok p, t) ∧
      ∃ text, p.text = .ok text ∧ DataType.integer.read? text = some (.int (-1000)) :=
  ⟨read?_of_literal (by decide) (.decimal rfl) ⟨4, 0⟩,
    read?_of_literal (by decide) (.int (by decide)) ⟨4, 0⟩⟩

/-- A day, a moment, a time of day or an identifier that is written into a statement is a token of
its own kind, and reads as itself: a moment at midnight is no day, and a day is no moment. -/
theorem readToken_of_literal {column : String} (visible : Text.isBlank column = false) {v : Value}
    (stamp : v.IsStamp) (s : Supply) (target : Option String) :
    ∃ p t, (literal (some column) v none).run.run s = (.ok p, t) ∧ p.dataType = .infer v ∧
      ∃ text, p.text = .ok text ∧ Condition.readToken target p.dataType text = .ok v := by
  obtain ⟨text, written, read⟩ := Value.read?_toText_of_isStamp stamp
  refine ⟨_, _, run_literal visible v none s, rfl, text, written, ?_⟩
  change Condition.readToken target (.infer v) text = .ok v
  rw [Condition.readToken, read]

/-- A moment at midnight of a leap day, the first day of all, a time of day with a fraction far west,
and an identifier that begins with zeros. -/
theorem readToken_of_literal_edges :
    (∃ p t, (literal (some "at") (.datetime ⟨⟨2024, 2, 29, by decide⟩, .midnight, none⟩)
        none).run.run ⟨4, 0⟩ = (.ok p, t) ∧ p.dataType = .datetime ∧
      ∃ text, p.text = .ok text ∧ Condition.readToken none p.dataType text =
        .ok (.datetime ⟨⟨2024, 2, 29, by decide⟩, .midnight, none⟩)) ∧
    (∃ p t, (literal (some "at") (.date ⟨1, 1, 1, by decide⟩) none).run.run ⟨4, 0⟩ = (.ok p, t) ∧
      p.dataType = .date ∧
      ∃ text, p.text = .ok text ∧
        Condition.readToken none p.dataType text = .ok (.date ⟨1, 1, 1, by decide⟩)) ∧
    (∃ p t, (literal (some "at") (.time ⟨⟨23, 59, 59, 10, by decide⟩, some ⟨-1439, by decide⟩⟩)
        none).run.run ⟨4, 0⟩ = (.ok p, t) ∧ p.dataType = .time ∧
      ∃ text, p.text = .ok text ∧ Condition.readToken none p.dataType text =
        .ok (.time ⟨⟨23, 59, 59, 10, by decide⟩, some ⟨-1439, by decide⟩⟩)) ∧
    ∃ p t, (literal (some "key") (.guid ⟨255, by decide⟩) none).run.run ⟨4, 0⟩ = (.ok p, t) ∧
      p.dataType = .guid ∧
      ∃ text, p.text = .ok text ∧
        Condition.readToken none p.dataType text = .ok (.guid ⟨255, by decide⟩) :=
  ⟨readToken_of_literal (by decide) (.datetime _) ⟨4, 0⟩ none,
    readToken_of_literal (by decide) (.date _) ⟨4, 0⟩ none,
    readToken_of_literal (by decide) (.time _) ⟨4, 0⟩ none,
    readToken_of_literal (by decide) (.guid _) ⟨4, 0⟩ none⟩

end Command

end Criteria
