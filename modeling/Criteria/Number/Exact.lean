import Criteria.Number.Binary64
import Criteria.Number.Decimal

/-!
# Exact values of numbers

The exact value of a number: a coefficient that ends in no zero and a power of ten, so that
equal numbers have equal forms whatever their kind.
-/

namespace Criteria

structure Exact where
  negative : Bool
  coefficient : Nat
  exponent : Int
deriving DecidableEq

namespace Exact

def zero : Exact := ⟨false, 0, 0⟩

/-- Moves the zeros at the end of a coefficient into the power of ten. -/
def withoutZeros (negative : Bool) (coefficient : Nat) (exponent : Int) : Exact :=
  if h : coefficient ≠ 0 ∧ coefficient % 10 = 0 then
    withoutZeros negative (coefficient / 10) (exponent + 1)
  else ⟨negative, coefficient, exponent⟩
termination_by coefficient
decreasing_by exact Nat.div_lt_self (Nat.pos_of_ne_zero h.1) (by decide)

/-- Zero has one form, without a sign. -/
def ofParts (negative : Bool) (coefficient : Nat) (exponent : Int) : Exact :=
  if coefficient = 0 then zero else withoutZeros negative coefficient exponent

def ofInt (n : Int) : Exact := ofParts (n < 0) n.natAbs 0

/-- A power of two below one is a power of five over a power of ten. -/
def ofBinary (negative : Bool) (mantissa : Nat) (exponent : Int) : Exact :=
  if 0 ≤ exponent then ofParts negative (mantissa * Nat.pow 2 exponent.toNat) 0
  else ofParts negative (mantissa * Nat.pow 5 (-exponent).toNat) exponent

example : ofInt 1500 = ofParts false 15 2 ∧ ofInt 0 = ofParts true 0 5 := by decide +kernel
example : ofBinary false 1 (-1) = ofParts false 50 (-2) := by decide +kernel

end Exact
end Criteria
