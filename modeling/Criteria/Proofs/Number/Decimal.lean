import Criteria.Number.Decimal

/-!
# Decimal numbers read back

A decimal number is written as a numeral: positional or with a power of ten, with zeros in front or
behind. However it is written, the numeral has the same sign, coefficient and scale, and reading it
gives the number itself and not only an equal one.
-/

namespace Criteria

namespace Text

theorem dropWhile_eq_self {p : Char → Bool} {s : List Char} (kept : ∀ c ∈ s, p c = false) :
    s.dropWhile p = s := by
  cases s with
  | nil => rfl
  | cons c s => rw [List.dropWhile_cons, kept c List.mem_cons_self, if_neg (by decide)]

theorem stripChars_eq_self {p : Char → Bool} {s : List Char} (kept : ∀ c ∈ s, p c = false) :
    stripChars p s = s := by
  rw [stripChars, dropWhile_eq_self kept,
    dropWhile_eq_self fun c hc => kept c (List.mem_reverse.mp hc), List.reverse_reverse]

theorem plainDigit_of_isDigit {c : Char} (digit : c.isDigit = true) : plainDigit c = c := by
  obtain ⟨low, high⟩ := Char.isDigit_iff_toNat.mp digit
  have low : 48 ≤ c.toNat := low
  have high : c.toNat ≤ 57 := high
  rw [plainDigit, digitValue?_of_isDigit digit]
  refine Char.toNat_inj.mp ?_
  rw [Nat.toNat_digitChar_of_lt_ten (by omega)]
  omega

end Text

namespace Numeral

open Text

/-- The characters that numbers are written with. -/
def IsPart (c : Char) : Prop := c.isDigit = true ∨ c ∈ ['-', '+', '.', 'E']

theorem isSpace_of_isPart {c : Char} (part : IsPart c) : isSpace c = false := by
  rcases part with digit | mark
  · obtain ⟨low, high⟩ := Char.isDigit_iff_toNat.mp digit
    have low : 48 ≤ c.toNat := low
    have high : c.toNat ≤ 57 := high
    simp only [isSpace, isWhiteSpace, Bool.or_eq_false_iff, Bool.and_eq_false_iff,
      decide_eq_false_iff_not, beq_eq_false_iff_ne]
    omega
  · simp only [List.mem_cons, List.not_mem_nil, or_false] at mark
    rcases mark with rfl | rfl | rfl | rfl <;> decide

theorem isWhiteSpace_of_isPart {c : Char} (part : IsPart c) : isWhiteSpace c = false :=
  (Bool.or_eq_false_iff.mp (isSpace_of_isPart part)).1

theorem ne_underscore_of_isPart {c : Char} (part : IsPart c) : c ≠ '_' := by
  rintro rfl
  rcases part with digit | mark
  · exact absurd digit (by decide)
  · exact absurd mark (by decide)

theorem plainDigit_of_isPart {c : Char} (part : IsPart c) : plainDigit c = c := by
  rcases part with digit | mark
  · exact plainDigit_of_isDigit digit
  · simp only [List.mem_cons, List.not_mem_nil, or_false] at mark
    rcases mark with rfl | rfl | rfl | rfl <;> decide +kernel

open Decimal (signText powerText pointed)

theorem readSign_signText {s : List Char} (digits : ∀ c ∈ s.head?, c.isDigit = true)
    (negative : Bool) : readSign (signText negative ++ s) = (negative, s) := by
  cases negative with
  | true => rfl
  | false =>
    have unsigned : ∀ mark t, mark.isDigit = false → s ≠ mark :: t := by
      rintro mark t other rfl
      rw [digits mark rfl] at other
      cases other
    exact readSign.eq_3 s (fun t => unsigned '-' t (by decide)) fun t => unsigned '+' t (by decide)

theorem isDigit_of_mem_toDigits {n : Nat} : ∀ c ∈ Nat.toDigits 10 n, c.isDigit = true :=
  fun _ => Nat.isDigit_of_mem_toDigits (by decide) (by decide)

theorem readInteger?_signed (negative : Bool) (n : Nat) :
    readInteger? ((if negative then '-' else '+') :: Nat.toDigits 10 n) =
      some (if negative then -(n : Int) else n) := by
  have digits : (Nat.toDigits 10 n).all Char.isDigit = true :=
    List.all_eq_true.mpr isDigit_of_mem_toDigits
  cases negative <;> simp [readInteger?, readSign, digits]

/-- A power of ten is read with its sign. -/
theorem readExponent?_powerText (e : Int) : readExponent? (powerText e) = some e := by
  by_cases isZero : e = 0
  · rw [isZero]
    rfl
  · have read := readInteger?_signed (decide (e < 0)) e.natAbs
    have value : (if e < 0 then -(e.natAbs : Int) else e.natAbs) = e := by omega
    simp only [decide_eq_true_eq, value] at read
    rw [powerText, if_neg isZero, readExponent?, if_pos (.inr rfl), read]

/-- A point with the digits behind it, if there are any. -/
def pointText (fraction : List Char) : List Char := if fraction = [] then [] else '.' :: fraction

/-- A numeral written with its power of ten. -/
def chars (n : Numeral) : List Char :=
  signText n.negative ++ (n.whole ++ (pointText n.fraction ++ powerText n.exponent))

/-- There are digits before the point, and digits only. -/
structure IsPlain (n : Numeral) : Prop where
  filled : n.whole ≠ []
  whole : ∀ c ∈ n.whole, c.isDigit = true
  fraction : ∀ c ∈ n.fraction, c.isDigit = true

theorem powerText_head (e : Int) : ∀ c ∈ (powerText e).head?, c = 'E' := by
  rw [powerText]
  split
  · exact nofun
  · rintro c ⟨⟩
    rfl

theorem takeWhile_isDigit {digits : List Char} (all : ∀ c ∈ digits, c.isDigit = true)
    (rest : List Char) (ends : ∀ c ∈ rest.head?, c.isDigit = false) :
    (digits ++ rest).takeWhile Char.isDigit = digits ∧
      (digits ++ rest).dropWhile Char.isDigit = rest := by
  rw [List.takeWhile_append_of_pos all, List.dropWhile_append_of_pos all]
  cases rest with
  | nil => exact ⟨List.append_nil digits, rfl⟩
  | cons c rest =>
    have stop : ¬c.isDigit = true := by simp [ends c rfl]
    rw [List.takeWhile_cons_of_neg stop, List.dropWhile_cons_of_neg stop, List.append_nil]
    exact ⟨rfl, rfl⟩

/-- What stands in front of the power is found again: the digits up to the point or the end, and those
behind the point. -/
theorem read?_chars {n : Numeral} (plain : n.IsPlain) : read? n.chars = some n := by
  obtain ⟨negative, whole, fraction, exponent⟩ := n
  obtain ⟨filled, wholeDigits, fractionDigits⟩ := plain
  have letter : ∀ c ∈ (powerText exponent).head?, c.isDigit = false := by
    intro c hc
    rw [powerText_head exponent c hc]
    decide
  have first : ∀ c ∈ (whole ++ (pointText fraction ++ powerText exponent)).head?,
      c.isDigit = true := by
    obtain ⟨c, rest, rfl⟩ := List.exists_cons_of_ne_nil filled
    rintro d ⟨⟩
    exact wholeDigits c List.mem_cons_self
  have nonempty : whole.isEmpty = false := List.isEmpty_eq_false_iff.mpr filled
  rw [read?, chars, readSign_signText first]
  by_cases bare : fraction = []
  · obtain ⟨taken, left⟩ := takeWhile_isDigit wholeDigits (powerText exponent) letter
    have read := readExponent?_powerText exponent
    simp only [pointText, bare, if_true, List.nil_append, taken, left, nonempty, Bool.false_and]
    cases power : powerText exponent with
    | nil =>
      rw [power] at read
      exact congrArg (Option.map _) read
    | cons c rest =>
      obtain rfl : c = 'E' := powerText_head exponent c (by rw [power]; rfl)
      rw [power] at read
      exact congrArg (Option.map _) read
  · have point : ∀ c ∈ ('.' :: (fraction ++ powerText exponent)).head?, c.isDigit = false := by
      rintro c ⟨⟩
      decide
    obtain ⟨taken, left⟩ := takeWhile_isDigit wholeDigits _ point
    obtain ⟨behind, power⟩ := takeWhile_isDigit fractionDigits (powerText exponent) letter
    simp only [pointText, bare, if_false, List.cons_append, taken, left, behind, power, nonempty,
      Bool.false_and, readExponent?_powerText]
    rfl

theorem isPart_signText (negative : Bool) : ∀ c ∈ signText negative, IsPart c := by
  intro c hc
  cases negative with
  | true =>
    obtain rfl := List.mem_singleton.mp hc
    exact .inr List.mem_cons_self
  | false => cases hc

theorem isPart_powerText (e : Int) : ∀ c ∈ powerText e, IsPart c := by
  intro c hc
  by_cases isZero : e = 0
  · rw [powerText, if_pos isZero] at hc
    cases hc
  · rw [powerText, if_neg isZero] at hc
    rcases List.mem_cons.mp hc with rfl | hc
    · exact .inr (by decide)
    · rcases List.mem_cons.mp hc with rfl | hc
      · exact .inr (by split <;> decide)
      · exact .inl (isDigit_of_mem_toDigits c hc)

theorem isPart_chars {n : Numeral} (plain : n.IsPlain) : ∀ c ∈ n.chars, IsPart c := by
  intro c hc
  rcases List.mem_append.mp hc with sign | hc
  · exact isPart_signText n.negative c sign
  rcases List.mem_append.mp hc with whole | hc
  · exact .inl (plain.whole c whole)
  rcases List.mem_append.mp hc with point | power
  · rw [pointText] at point
    split at point
    · cases point
    · rcases List.mem_cons.mp point with rfl | digit
      · exact .inr (by decide)
      · exact .inl (plain.fraction c digit)
  · exact isPart_powerText n.exponent c power

/-- Digits with a point among them, or beside them with zeros in between, are those of a numeral. It
has the same coefficient, and as many digits behind the point as there are from it on. -/
theorem exists_pointed {digits : List Char} (filled : digits ≠ [])
    (all : ∀ c ∈ digits, c.isDigit = true) {place : Int} (inside : place ≤ digits.length)
    (negative : Bool) (exponent : Int) :
    ∃ n : Numeral, n.IsPlain ∧ n.negative = negative ∧ n.exponent = exponent ∧
      pointed digits place = n.whole ++ pointText n.fraction ∧
      n.coefficient = Nat.ofDigitChars 10 digits 0 ∧
      (n.fraction.length : Int) = digits.length - place := by
  have zeros : ∀ k, ∀ c ∈ List.replicate k '0', c.isDigit = true := by
    intro k c hc
    rw [List.eq_of_mem_replicate hc]
    decide
  by_cases front : place ≤ 0
  · refine ⟨⟨negative, ['0'], List.replicate (-place).toNat '0' ++ digits, exponent⟩,
      ⟨List.cons_ne_nil _ _, ?_, List.forall_mem_append.mpr ⟨zeros _, all⟩⟩, rfl, rfl, ?_, ?_, ?_⟩
    · exact zeros 1
    · rw [pointed, if_pos front, pointText, if_neg (by simp [filled])]
      rfl
    · have more : '0' :: List.replicate (-place).toNat '0' =
          List.replicate ((-place).toNat + 1) '0' := rfl
      rw [coefficient, ← List.append_assoc, List.singleton_append, more, Nat.ofDigitChars_append,
        Nat.ofDigitChars_replicate_zero, Nat.mul_zero]
    · simp
      omega
  by_cases behind : (digits.length : Int) ≤ place
  · refine ⟨⟨negative, digits, [], exponent⟩, ⟨filled, all, nofun⟩, rfl, rfl, ?_, ?_, ?_⟩
    · have unfilled : place.toNat - digits.length = 0 := by omega
      rw [pointed, if_neg front, if_pos behind, unfilled]
      rfl
    · rw [coefficient, List.append_nil]
    · simp
      omega
  · refine ⟨⟨negative, digits.take place.toNat, digits.drop place.toNat, exponent⟩,
      ⟨?_, fun c hc => all c (List.mem_of_mem_take hc), fun c hc => all c (List.mem_of_mem_drop hc)⟩,
      rfl, rfl, ?_, ?_, ?_⟩
    · simp [filled]
      omega
    · have remains : digits.drop place.toNat ≠ [] := by
        simp
        omega
      rw [pointed, if_neg front, if_neg behind, pointText, if_neg remains]
    · rw [coefficient, List.take_append_drop]
    · simp
      omega

end Numeral

namespace Decimal

open Text Numeral

/-- The numeral that a finite number is written as. -/
theorem exists_numeral (negative : Bool) (coefficient : Nat) (exponent : Int)
    (fits : DecimalFits coefficient exponent) :
    ∃ n : Numeral, n.IsPlain ∧ (finite negative coefficient exponent fits).chars = n.chars ∧
      n.negative = negative ∧ n.coefficient = coefficient ∧ n.scale = exponent := by
  let digits := Nat.toDigits 10 coefficient
  let left := exponent + digits.length
  let place := if exponent ≤ 0 ∧ -6 < left then left else 1
  have inside : place ≤ digits.length := by
    have counted : 0 < digits.length := Nat.length_toDigits_pos
    dsimp only [place, left]
    omega
  obtain ⟨n, plain, sign, power, written, value, behind⟩ :=
    exists_pointed Nat.toDigits_ne_nil isDigit_of_mem_toDigits inside negative (left - place)
  refine ⟨n, plain, ?_, sign, ?_, ?_⟩
  · rw [Numeral.chars, sign, power, ← List.append_assoc n.whole, ← written]
    rfl
  · rw [value, Nat.ofDigitChars_ten_toDigits]
  · rw [scale, power, behind]
    have sum : left = exponent + (Nat.toDigits 10 coefficient).length := rfl
    omega

/-- A finite number is read back with its sign, its coefficient and its scale. -/
theorem read?_toText {d : Decimal} (finite : d.isFinite = true) : read? d.toText = some d := by
  cases d with
  | infinite negative => cases finite
  | nan negative signaling payload => cases finite
  | finite negative coefficient exponent fits =>
    obtain ⟨n, plain, written, sign, value, scale⟩ :=
      exists_numeral negative coefficient exponent fits
    have parts := isPart_chars plain
    have stripped : stripChars isSpace n.chars = n.chars :=
      stripChars_eq_self fun c hc => isSpace_of_isPart (parts c hc)
    have joined : n.chars.filter (· ≠ '_') = n.chars :=
      List.filter_eq_self.mpr fun c hc => by simpa using ne_underscore_of_isPart (parts c hc)
    have kept : n.chars.map plainDigit = n.chars :=
      (List.map_congr_left fun c hc => plainDigit_of_isPart (parts c hc)).trans (List.map_id' _)
    rw [toText, read?, String.toList_ofList, written, stripped, plainChars, joined, kept,
      readChars?, read?_chars plain]
    simp only [sign, value, scale, ofParts?_eq_some negative coefficient exponent fits]

end Decimal
end Criteria
