import Criteria.DataType.Literal
import Criteria.Proofs.Number.Decimal

/-!
# Integers read back

An integer is written with a minus or nothing and digits that begin with a zero for zero only. There
is nothing in this that reading takes away, so that the digits are read as they are.
-/

namespace Criteria

namespace Numeral

/-- Only zero is written with a zero in front. -/
theorem exists_toDigits {n : Nat} (nonzero : n ≠ 0) :
    ∃ c s, Nat.toDigits 10 n = c :: s ∧ c ≠ '0' := by
  induction n using Nat.strongRecOn with
  | ind n ih =>
    by_cases small : n < 10
    · exact ⟨n.digitChar, [], Nat.toDigits_of_lt_base small, by simpa using nonzero⟩
    · obtain ⟨c, s, front, other⟩ :=
        ih (n / 10) (Nat.div_lt_self (Nat.pos_of_ne_zero nonzero) (by decide)) (by omega)
      refine ⟨c, s ++ [(n % 10).digitChar], ?_, other⟩
      rw [Nat.toDigits_of_base_le (by decide) (by omega), front, List.cons_append]

theorem dropUnderscores?_eq_self {s : List Char} (bare : '_' ∉ s) :
    dropUnderscores? s = some s := by
  have double : hasDoubleUnderscore s = false := by
    induction s with
    | nil => rfl
    | cons c s ih =>
      rw [List.mem_cons, not_or] at bare
      rw [hasDoubleUnderscore.eq_2 c s fun t h _ => bare.1 h.symm]
      exact ih bare.2
  have first : s.head? ≠ some '_' := fun h => bare (List.mem_of_mem_head? h)
  have last : s.getLast? ≠ some '_' := fun h => bare (List.mem_of_mem_getLast? h)
  have kept : s.filter (· ≠ '_') = s :=
    List.filter_eq_self.mpr fun c hc => by simpa using fun h : c = '_' => bare (h ▸ hc)
  rw [dropUnderscores?, if_neg (by simp [first, last, double]), kept]

end Numeral

namespace DataType

open Text Numeral

theorem significant?_toDigits (n : Nat) :
    significant? (Nat.toDigits 10 n) = some (Nat.toDigits 10 n) := by
  by_cases isZero : n = 0
  · rw [isZero]
    rfl
  · obtain ⟨c, s, digits, other⟩ := exists_toDigits isZero
    have digit := isDigit_of_mem_toDigits (n := n) c (digits ▸ List.mem_cons_self)
    rw [digits, significant?, if_neg other, if_pos digit]

/-- Without a point there is no fraction. -/
theorem dropZeroFraction_eq_self {s : List Char} (bare : '.' ∉ s) : dropZeroFraction s = s := by
  have whole : s.dropWhile (· ≠ '.') = [] :=
    dropWhile_eq_nil_iff_forall.mpr fun c hc => by simpa using fun h : c = '.' => bare (h ▸ hc)
  simp only [dropZeroFraction, whole]
  rfl

theorem readDigits?_toDigits {n : Nat} (short : (Nat.toDigits 10 n).length ≤ maxDigits) :
    readDigits? (Nat.toDigits 10 n) = some n := by
  have digits : (Nat.toDigits 10 n).all Char.isDigit = true :=
    List.all_eq_true.mpr isDigit_of_mem_toDigits
  have front : ((Nat.toDigits 10 n).head? == some '0' && (Nat.toDigits 10 n).length != 1) =
      false := by
    by_cases isZero : n = 0
    · rw [isZero]
      rfl
    · obtain ⟨c, s, written, other⟩ := exists_toDigits isZero
      simp [written, other]
  have filled : (Nat.toDigits 10 n).isEmpty = false :=
    List.isEmpty_eq_false_iff.mpr Nat.toDigits_ne_nil
  have short : ¬maxDigits < (Nat.toDigits 10 n).length := Nat.not_lt.mpr short
  simp only [readDigits?, filled, short, digits, front, decide_false, Bool.not_true, Bool.or_false,
    Bool.false_eq_true, if_false, Nat.ofDigitChars_ten_toDigits]

theorem readPlain?_toDigits {n : Nat} (short : (Nat.toDigits 10 n).length ≤ maxDigits)
    (negative : Bool) :
    readPlain? (if negative then '-' :: Nat.toDigits 10 n else Nat.toDigits 10 n) =
      some (if negative then -(n : Int) else n) := by
  have read := readDigits?_toDigits short
  cases negative with
  | true =>
    simp only [if_true, readPlain?, read]
    rfl
  | false =>
    have plain : ∀ s, Nat.toDigits 10 n ≠ '-' :: s := by
      intro s h
      exact absurd (isDigit_of_mem_toDigits '-' (h ▸ List.mem_cons_self)) (by decide)
    simp only [Bool.false_eq_true, if_false]
    rw [readPlain?.eq_2 _ plain, read]
    rfl

theorem chars_repr (n : Int) :
    n.repr.toList = Decimal.signText (decide (n < 0)) ++ Nat.toDigits 10 n.natAbs := by
  cases n with
  | ofNat n => exact Nat.toList_repr
  | negSucc n =>
    rw [Int.repr, String.toList_append, Nat.toList_repr,
      decide_eq_true (Int.negSucc_lt_zero n)]
    rfl

/-- An integer that is not too long is read back. -/
theorem readInteger?_repr {n : Int} (short : (Nat.toDigits 10 n.natAbs).length ≤ maxDigits) :
    readInteger? n.repr = some n := by
  have written := chars_repr n
  have digits := isDigit_of_mem_toDigits (n := n.natAbs)
  have unmarked : ∀ d, d.isDigit = false → d ∉ Nat.toDigits 10 n.natAbs := by
    intro d mark mem
    rw [digits d mem] at mark
    cases mark
  have stripped : stripChars isWhiteSpace n.repr.toList = n.repr.toList := by
    refine stripChars_eq_self fun c hc => isWhiteSpace_of_isPart ?_
    rw [written] at hc
    rcases List.mem_append.mp hc with sign | digit
    · exact isPart_signText _ c sign
    · exact .inl (digits c digit)
  have first : ∀ c ∈ (Nat.toDigits 10 n.natAbs).head?, c.isDigit = true :=
    fun c hc => digits c (List.mem_of_mem_head? hc)
  have plain := readPlain?_toDigits short (decide (n < 0))
  have value : (if n < 0 then -(n.natAbs : Int) else n.natAbs) = n := by omega
  simp only [decide_eq_true_eq, value] at plain
  rw [readInteger?, stripped, written, readSign_signText first]
  simp only [significant?_toDigits, Option.bind_eq_bind, Option.bind_some,
    dropZeroFraction_eq_self (unmarked '.' (by decide)),
    dropUnderscores?_eq_self (unmarked '_' (by decide)), decide_eq_true_eq, plain]

end DataType
end Criteria
