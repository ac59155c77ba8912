import Criteria.Number.Exact
import Mathlib.Algebra.Order.Field.Power
import Mathlib.Data.Rat.Cast.Order
import Mathlib.Tactic.FieldSimp
import Mathlib.Tactic.Linarith
import Mathlib.Tactic.Positivity
import Mathlib.Tactic.Ring

/-!
# Exact forms and rational numbers

The rational number that an exact form stands for. Two numbers have one form exactly when they are
the same rational number, since a coefficient that ends in no zero leaves no choice of the power.
-/

namespace Criteria

/-- A magnitude with a sign. -/
def signed (negative : Bool) (magnitude : ℚ) : ℚ := if negative then -magnitude else magnitude

theorem signed_eq_zero_iff {negative : Bool} {magnitude : ℚ} :
    signed negative magnitude = 0 ↔ magnitude = 0 := by
  cases negative <;> simp [signed]

/-- A number other than zero has one sign and one magnitude. -/
theorem eq_of_signed_eq {m n : Bool} {x y : ℚ} (hx : 0 < x) (hy : 0 < y)
    (h : signed m x = signed n y) : m = n ∧ x = y := by
  cases m <;> cases n <;> simp only [signed, if_true, Bool.false_eq_true, if_false] at h
  · exact ⟨rfl, h⟩
  · linarith
  · linarith
  · exact ⟨rfl, neg_injective h⟩

namespace Exact

def magnitude (x : Exact) : ℚ := x.coefficient * 10 ^ x.exponent

def value (x : Exact) : ℚ := signed x.negative x.magnitude

/-- The coefficient ends in no zero, unless the number is zero in its one form. -/
def IsNormal (x : Exact) : Prop := x = zero ∨ x.coefficient % 10 ≠ 0

theorem value_withoutZeros (negative : Bool) (coefficient : Nat) (exponent : Int) :
    (withoutZeros negative coefficient exponent).value =
      signed negative (coefficient * 10 ^ exponent) := by
  induction coefficient using Nat.strong_induction_on generalizing exponent with
  | h coefficient ih =>
    rw [withoutZeros]
    by_cases trailing : coefficient ≠ 0 ∧ coefficient % 10 = 0
    · rw [dif_pos trailing, ih _ (Nat.div_lt_self (Nat.pos_of_ne_zero trailing.1) (by decide)),
        zpow_add_one₀ (by norm_num)]
      have whole : ((coefficient / 10 : ℕ) : ℚ) * 10 = coefficient := by
        exact_mod_cast Nat.div_mul_cancel (Nat.dvd_of_mod_eq_zero trailing.2)
      rw [← whole]
      ring_nf
    · rw [dif_neg trailing]
      rfl

theorem mod_ten_withoutZeros (negative : Bool) {coefficient : Nat} (h : coefficient ≠ 0)
    (exponent : Int) : (withoutZeros negative coefficient exponent).coefficient % 10 ≠ 0 := by
  induction coefficient using Nat.strong_induction_on generalizing exponent with
  | h coefficient ih =>
    rw [withoutZeros]
    by_cases trailing : coefficient ≠ 0 ∧ coefficient % 10 = 0
    · rw [dif_pos trailing]
      exact ih _ (Nat.div_lt_self (Nat.pos_of_ne_zero h) (by decide)) (by omega) _
    · rw [dif_neg trailing]
      exact fun last => trailing ⟨h, last⟩

theorem value_ofParts (negative : Bool) (coefficient : Nat) (exponent : Int) :
    (ofParts negative coefficient exponent).value =
      signed negative (coefficient * 10 ^ exponent) := by
  by_cases isZero : coefficient = 0
  · rw [ofParts, if_pos isZero, isZero]
    simp [zero, value, magnitude, signed]
  · rw [ofParts, if_neg isZero, value_withoutZeros]

theorem isNormal_ofParts (negative : Bool) (coefficient : Nat) (exponent : Int) :
    (ofParts negative coefficient exponent).IsNormal := by
  by_cases isZero : coefficient = 0
  · exact .inl (by rw [ofParts, if_pos isZero])
  · rw [ofParts, if_neg isZero]
    exact .inr (mod_ten_withoutZeros negative isZero exponent)

theorem magnitude_pos {x : Exact} (h : x.coefficient % 10 ≠ 0) : 0 < x.magnitude := by
  have positive : 0 < x.coefficient := by omega
  have cast : (0 : ℚ) < x.coefficient := by exact_mod_cast positive
  unfold magnitude
  positivity

/-- A coefficient that ends in no zero has the greatest power for its number. -/
theorem exponent_le {x y : Exact} (h : x.coefficient % 10 ≠ 0) (same : x.magnitude = y.magnitude) :
    y.exponent ≤ x.exponent := by
  by_contra greater
  obtain ⟨k, power⟩ : ∃ k : ℕ, y.exponent = x.exponent + (k + 1 : ℕ) :=
    ⟨(y.exponent - x.exponent - 1).toNat, by omega⟩
  have nonzero : (10 : ℚ) ^ x.exponent ≠ 0 := zpow_ne_zero _ (by norm_num)
  have whole : (x.coefficient : ℚ) = y.coefficient * 10 ^ (k + 1) := by
    unfold magnitude at same
    rw [power, zpow_add₀ (by norm_num), zpow_natCast, mul_comm ((10 : ℚ) ^ x.exponent),
      ← mul_assoc] at same
    exact mul_right_cancel₀ nonzero same
  have coefficients : x.coefficient = y.coefficient * 10 ^ (k + 1) := by exact_mod_cast whole
  rw [coefficients, pow_succ, ← mul_assoc, Nat.mul_mod_left] at h
  exact h rfl

theorem eq_of_value_eq {x y : Exact} (hx : x.IsNormal) (hy : y.IsNormal)
    (same : x.value = y.value) : x = y := by
  have zeroValue : zero.value = 0 := by simp [zero, value, magnitude, signed]
  rcases hx with rfl | hx <;> rcases hy with rfl | hy
  · rfl
  · rw [zeroValue, value, eq_comm, signed_eq_zero_iff] at same
    exact absurd same (magnitude_pos hy).ne'
  · rw [zeroValue, value, signed_eq_zero_iff] at same
    exact absurd same (magnitude_pos hx).ne'
  · obtain ⟨sign, magnitudes⟩ := eq_of_signed_eq (magnitude_pos hx) (magnitude_pos hy) same
    have exponents : x.exponent = y.exponent :=
      le_antisymm (exponent_le hy magnitudes.symm) (exponent_le hx magnitudes)
    have coefficients : (x.coefficient : ℚ) = y.coefficient := by
      unfold magnitude at magnitudes
      rw [exponents] at magnitudes
      exact mul_right_cancel₀ (zpow_ne_zero _ (by norm_num)) magnitudes
    obtain ⟨m, c, e⟩ := x
    obtain ⟨n, d, f⟩ := y
    obtain rfl : m = n := sign
    obtain rfl : c = d := by exact_mod_cast coefficients
    obtain rfl : e = f := exponents
    rfl

/-- A power of two below one, written as a power of five over a power of ten. -/
theorem value_ofBinary (negative : Bool) (mantissa : Nat) (exponent : Int) :
    (ofBinary negative mantissa exponent).value = signed negative (mantissa * 2 ^ exponent) := by
  unfold ofBinary
  by_cases whole : 0 ≤ exponent
  · obtain ⟨k, rfl⟩ := Int.eq_ofNat_of_zero_le whole
    rw [if_pos whole, value_ofParts]
    simp
  · obtain ⟨k, rfl⟩ : ∃ k : ℕ, exponent = -k := ⟨exponent.natAbs, by omega⟩
    rw [if_neg whole, value_ofParts]
    have powers : (10 : ℚ) ^ k = 5 ^ k * 2 ^ k := by rw [← mul_pow]; norm_num
    simp only [neg_neg, Int.toNat_natCast, Nat.pow_eq, Nat.cast_mul, Nat.cast_pow, Nat.cast_ofNat,
      zpow_neg, zpow_natCast, powers]
    congr 1
    field_simp

theorem isNormal_ofBinary (negative : Bool) (mantissa : Nat) (exponent : Int) :
    (ofBinary negative mantissa exponent).IsNormal := by
  unfold ofBinary
  split <;> exact isNormal_ofParts ..

theorem value_ofInt (n : Int) : (ofInt n).value = n := by
  rw [ofInt, value_ofParts, zpow_zero, mul_one, Nat.cast_natAbs]
  by_cases negative : n < 0
  · rw [abs_of_neg negative]
    simp [signed, negative]
  · rw [abs_of_nonneg (not_lt.mp negative)]
    simp [signed, negative]

theorem isNormal_ofInt (n : Int) : (ofInt n).IsNormal := isNormal_ofParts ..

end Exact
end Criteria
