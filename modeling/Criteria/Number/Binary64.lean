import Criteria.Number.Numeral
import Criteria.Text.Space

/-!
# Binary floating-point numbers

Binary floating-point numbers of 64 bits as exact values `mantissa · 2^exponent`. Reading rounds
a decimal to the nearest of them, half to the even mantissa; all arithmetic is on natural
numbers.
-/

namespace Criteria

inductive Binary64 where
  | finite (negative : Bool) (mantissa : Nat) (exponent : Int)
  | infinite (negative : Bool)
  | nan
deriving DecidableEq

namespace Binary64

/-- The quotient rounded to the nearest integer, half to even. -/
def roundHalfEven (num den : Nat) : Nat :=
  let q := num / den
  let twice := 2 * (num % den)
  if twice < den then q else if den < twice then q + 1 else q + q % 2

/-- The greatest `k` with `base^k ≤ num / den`, given one that is right or one too large. -/
def floorLog (base num den : Nat) (guess : Int) : Int :=
  if den * Nat.pow base guess.toNat ≤ num * Nat.pow base (-guess).toNat then guess
  else guess - 1

/-- A positive quotient as a mantissa below 2^53 and an exponent: 53 bits unless the exponent
would fall below -1074. `none` when it exceeds every finite number. -/
def roundPositive? (num den : Nat) : Option (Nat × Int) :=
  let top := floorLog 2 num den ((num.log2 : Int) - den.log2)
  let e := max (top - 52) (-1074)
  let m := roundHalfEven (num * Nat.pow 2 (-e).toNat) (den * Nat.pow 2 e.toNat)
  let (m, e) := if m = Nat.pow 2 53 then (Nat.pow 2 52, e + 1) else (m, e)
  if 971 < e then none else some (m, e)

/-- The whole number that stands for `n` where 53 bits and a power of two are kept, half to even.
Right below 2^1023, where no power is too great. -/
def roundWhole (n : Nat) : Nat :=
  let unit := Nat.pow 2 (n.log2 - 52)
  roundHalfEven n unit * unit

def ofRatio (negative : Bool) (num den : Nat) : Binary64 :=
  if num = 0 then .finite negative 0 (-1074)
  else match roundPositive? num den with
    | some (m, e) => .finite negative m e
    | none => .infinite negative

/-- The number nearest to `coefficient · 10^scale`. Beyond 400 places the outcome is known without
the power of ten. -/
def ofDecimal (negative : Bool) (coefficient : Nat) (scale : Int) : Binary64 :=
  let leading := scale + (Nat.toDigits 10 coefficient).length
  if coefficient = 0 ∨ leading < -400 then .finite negative 0 (-1074)
  else if 400 < leading then .infinite negative
  else ofRatio negative (coefficient * Nat.pow 10 scale.toNat) (Nat.pow 10 (-scale).toNat)

/-- A finite number as a quotient. -/
def ratio? : Binary64 → Option (Int × Nat)
  | .finite negative m e =>
    let magnitude := m * Nat.pow 2 e.toNat
    some (if negative then -magnitude else magnitude, Nat.pow 2 (-e).toNat)
  | _ => none

/-- The words for the numbers that are not finite, in any case. -/
def readWord? (s : List Char) : Option Binary64 :=
  let (negative, word) := Numeral.readSign s
  let lower := word.map Char.toLower
  if lower = "inf".toList ∨ lower = "infinity".toList then some (.infinite negative)
  else if lower = "nan".toList then some .nan
  else none

def readChars? (s : List Char) : Option Binary64 :=
  match Numeral.read? s with
  | some n => some (ofDecimal n.negative n.coefficient n.scale)
  | none => readWord? s

/-- Reads a number; white space around it is ignored. Underscores may stand inside a number that
has no white space around it. -/
def read? (s : String) : Option Binary64 :=
  (readChars? (Text.stripChars Text.isWhiteSpace s.toList)).orElse fun _ =>
    (Numeral.dropUnderscores? s.toList).bind readChars?

example : roundWhole 9007199254740993 = 9007199254740992 := by decide +kernel
example : roundWhole 9007199254740995 = 9007199254740996 := by decide +kernel
example : read? "1.5" = some (.finite false 6755399441055744 (-52)) := by decide +kernel
example : read? "-0.0" = some (.finite true 0 (-1074)) := by decide +kernel
example : read? "2e-324" = some (.finite false 0 (-1074)) := by decide +kernel
example : read? "5e-324" = some (.finite false 1 (-1074)) := by decide +kernel
example : read? "1e400" = some (.infinite false) ∧ read? "-NaN" = some .nan := by decide +kernel
example : read? "1e1_0" = read? "1e10" ∧ read? "1__0" = none := by decide +kernel
example : read? " 1e10\n" = read? "1e10" ∧ read? " 1_0" = none := by decide +kernel

end Binary64
end Criteria
