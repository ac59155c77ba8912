/-!
# Numerals

Numbers written in decimal: a sign, digits with an optional point among or beside them, and an
optional power of ten. Both float and decimal texts have this shape.
-/

namespace Criteria

/-- The number `(-1)^negative · (whole ++ fraction) · 10^(exponent - length of fraction)`. -/
structure Numeral where
  negative : Bool
  whole : List Char
  fraction : List Char
  exponent : Int
deriving DecidableEq

namespace Numeral

def coefficient (n : Numeral) : Nat := Nat.ofDigitChars 10 (n.whole ++ n.fraction) 0

/-- The power of ten that the coefficient is to be multiplied by. -/
def scale (n : Numeral) : Int := n.exponent - n.fraction.length

/-- The most digits in which an integer is read or written. A sign does not count. -/
def maxDigits : Nat := 4300

/-- A number that has no more digits than can be written. -/
def Short (n : Nat) : Prop := n.repr.length ≤ maxDigits

instance (n : Nat) : Decidable (Short n) := inferInstanceAs (Decidable (_ ≤ _))

/-- An optional sign; `true` for a minus. -/
def readSign : List Char → Bool × List Char
  | '-' :: s => (true, s)
  | '+' :: s => (false, s)
  | s => (false, s)

/-- The integer written by an optional sign and at least one digit, and nothing else. -/
def readInteger? (s : List Char) : Option Int :=
  let (negative, digits) := readSign s
  if digits.isEmpty || !digits.all Char.isDigit then none
  else
    let n : Int := Nat.ofDigitChars 10 digits 0
    some (if negative then -n else n)

/-- What may follow the digits: nothing, or a letter e and a power. -/
def readExponent? : List Char → Option Int
  | [] => some 0
  | c :: s => if c = 'e' ∨ c = 'E' then readInteger? s else none

/-- Reads a whole text. Digits may be missing on one side of the point, not on both. -/
def read? (s : List Char) : Option Numeral :=
  let (negative, s) := readSign s
  let whole := s.takeWhile Char.isDigit
  let (fraction, rest) := match s.dropWhile Char.isDigit with
    | '.' :: t => (t.takeWhile Char.isDigit, t.dropWhile Char.isDigit)
    | t => ([], t)
  if whole.isEmpty && fraction.isEmpty then none
  else (readExponent? rest).map fun e => ⟨negative, whole, fraction, e⟩

def hasDoubleUnderscore : List Char → Bool
  | '_' :: '_' :: _ => true
  | _ :: s => hasDoubleUnderscore s
  | [] => false

/-- Drops the underscores of a text, if none is at an end and no two are side by side. -/
def dropUnderscores? (s : List Char) : Option (List Char) :=
  if s.head? = some '_' ∨ s.getLast? = some '_' ∨ hasDoubleUnderscore s then none
  else some (s.filter (· ≠ '_'))

example : (read? "-12.50e3".toList).map (fun n => (n.negative, n.coefficient, n.scale)) =
    some (true, 1250, 1) := by decide
example : (read? ".5".toList).map (fun n => (n.coefficient, n.scale)) = some (5, -1) := by decide
example : dropUnderscores? "1_000".toList = some "1000".toList := by decide
example : dropUnderscores? "1_".toList = none ∧ dropUnderscores? "1__0".toList = none := by decide
example : read? ".".toList = none ∧ read? "1e".toList = none ∧ read? "1 ".toList = none := by
  decide

end Numeral
end Criteria
