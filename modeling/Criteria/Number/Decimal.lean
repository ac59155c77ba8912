import Criteria.Number.Numeral
import Criteria.Text.Digit
import Criteria.Text.Space

/-!
# Decimal numbers

Decimal numbers that keep their scale: `1.50` and `1.5` are equal and yet written apart.
Exponents are bounded, so that a text out of range is no number.
-/

namespace Criteria

/-- The exponent of the leading digit, which the writing of a number turns on. -/
def leadingExponent (coefficient : Nat) (exponent : Int) : Int :=
  exponent + ((Nat.toDigits 10 coefficient).length : Int) - 1

/-- The range of exponents, from the smallest of the last digit to the largest of the first. -/
def DecimalFits (coefficient : Nat) (exponent : Int) : Prop :=
  -1999999999999999997 ≤ exponent ∧ leadingExponent coefficient exponent ≤ 999999999999999999

instance (coefficient : Nat) (exponent : Int) : Decidable (DecimalFits coefficient exponent) :=
  inferInstanceAs (Decidable (_ ∧ _))

inductive Decimal where
  | finite (negative : Bool) (coefficient : Nat) (exponent : Int)
      (fits : DecimalFits coefficient exponent)
  | infinite (negative : Bool)
  /-- Not a number, with the digits that a diagnosis may have left in it. -/
  | nan (negative signaling : Bool) (payload : Nat)
deriving DecidableEq

namespace Decimal

def ofParts? (negative : Bool) (coefficient : Nat) (exponent : Int) : Option Decimal :=
  if fits : DecimalFits coefficient exponent then some (.finite negative coefficient exponent fits)
  else none

def isFinite : Decimal → Bool
  | .finite .. => true
  | _ => false

/-- The digits with a point after the first `place` of them, filled up with zeros. -/
def pointed (digits : List Char) (place : Int) : List Char :=
  if place ≤ 0 then '0' :: '.' :: List.replicate (-place).toNat '0' ++ digits
  else if (digits.length : Int) ≤ place then
    digits ++ List.replicate (place.toNat - digits.length) '0'
  else digits.take place.toNat ++ '.' :: digits.drop place.toNat

/-- A power of ten with its sign, or nothing for the power zero. -/
def powerText (e : Int) : List Char :=
  if e = 0 then []
  else 'E' :: (if e < 0 then '-' else '+') :: Nat.toDigits 10 e.natAbs

/-- Positional with at most five zeros behind the point, else one digit before the point and a
power of ten. A positive exponent is always written as a power. -/
def magnitudeText (coefficient : Nat) (exponent : Int) : List Char :=
  let digits := Nat.toDigits 10 coefficient
  let left := exponent + digits.length
  let place := if exponent ≤ 0 ∧ -6 < left then left else 1
  pointed digits place ++ powerText (left - place)

def signText (negative : Bool) : List Char := if negative then ['-'] else []

def chars : Decimal → List Char
  | .finite negative coefficient exponent _ =>
    signText negative ++ magnitudeText coefficient exponent
  | .infinite negative => signText negative ++ "Infinity".toList
  | .nan negative signaling payload =>
    signText negative ++ (if signaling then ['s'] else []) ++ "NaN".toList ++
      (if payload = 0 then [] else Nat.toDigits 10 payload)

def toText (d : Decimal) : String := String.ofList d.chars

/-- Digits of any script become ASCII digits, and underscores vanish. -/
def plainChars (s : List Char) : List Char :=
  (s.filter (· ≠ '_')).map Text.plainDigit

/-- The words for the numbers that are not finite, in any case. -/
def readWord? (negative : Bool) (s : List Char) : Option Decimal :=
  let lower := s.map Char.toLower
  let payload? (digits : List Char) : Option Nat :=
    if digits.all Char.isDigit then some (Nat.ofDigitChars 10 digits 0) else none
  if lower = "inf".toList ∨ lower = "infinity".toList then some (.infinite negative)
  else match lower with
    | 'n' :: 'a' :: 'n' :: rest => (payload? rest).map (.nan negative false)
    | 's' :: 'n' :: 'a' :: 'n' :: rest => (payload? rest).map (.nan negative true)
    | _ => none

def readChars? (s : List Char) : Option Decimal :=
  match Numeral.read? s with
  | some n => ofParts? n.negative n.coefficient n.scale
  | none => let (negative, word) := Numeral.readSign s; readWord? negative word

/-- Reads a decimal number; white space around it is ignored. -/
def read? (s : String) : Option Decimal :=
  readChars? (plainChars (Text.stripChars Text.isSpace s.toList))

theorem ofParts?_eq_some (negative : Bool) (coefficient : Nat) (exponent : Int)
    (fits : DecimalFits coefficient exponent) :
    ofParts? negative coefficient exponent = some (.finite negative coefficient exponent fits) :=
  dif_pos fits

example : (read? "1.50").map toText = some "1.50" := by decide +kernel
example : (read? " 1e5 ").map toText = some "1E+5" := by decide +kernel
example : (read? "1E-7").map toText = some "1E-7" := by decide +kernel
example : (read? "1e-6").map toText = some "0.000001" := by decide +kernel
example : (read? "-0E-5").map toText = some "-0.00000" := by decide +kernel
example : (read? "٣.٥").map toText = some "3.5" := by decide +kernel
example : (read? "-nan").map toText = some "-NaN" ∧ (read? "1 2").map toText = none := by
  decide +kernel
example : (read? "1e999999999999999999").isSome ∧ (read? "10e999999999999999999").isNone := by
  decide +kernel

end Decimal
end Criteria
