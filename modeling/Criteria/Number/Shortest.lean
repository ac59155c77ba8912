import Criteria.Number.Binary64

/-!
# Shortest texts of floating-point numbers

The text of a floating-point number: the fewest digits that read back to it, and of those the
nearest to its value. Positional for exponents from -4 to 15, else with a power of ten of at
least two digits.
-/

namespace Criteria.Binary64

/-- A decimal `digits · 10^scale` that reads back to the number it stands for. -/
structure Shortest where
  digits : Nat
  scale : Int
deriving DecidableEq

/-- Of the two multiples of `10^scale` around `num / den`, the nearest that `reads` accepts; an
exact tie goes to the even one. -/
def nearestOnGrid? (num den : Nat) (scale : Int) (reads : Nat → Bool) : Option Nat :=
  let n := num * Nat.pow 10 (-scale).toNat
  let d := den * Nat.pow 10 scale.toNat
  let low := n / d
  let twice := 2 * (n % d)
  let lowFirst := twice < d || (twice == d && low % 2 == 0)
  let (first, second) := if lowFirst then (low, low + 1) else (low + 1, low)
  if reads first then some first else if reads second then some second else none

/-- Tries ever finer grids, `fuel` of them, beginning with one digit. -/
def shortestFrom (m : Nat) (e : Int) (num den : Nat) : Nat → Int → Shortest
  | 0, _ => ⟨m, 0⟩
  | fuel + 1, scale =>
    let reads := fun (c : Nat) => ofDecimal false c scale == .finite false m e
    match nearestOnGrid? num den scale reads with
    | some c => ⟨c, scale⟩
    | none => shortestFrom m e num den fuel (scale - 1)

/-- Trailing zeros move into the power of ten. -/
def dropZeros : Nat → Shortest → Shortest
  | 0, s => s
  | fuel + 1, s =>
    if s.digits % 10 = 0 ∧ s.digits ≠ 0 then dropZeros fuel ⟨s.digits / 10, s.scale + 1⟩ else s

/-- The shortest decimal of a number `m · 2^e` with `m` positive; 17 digits always suffice. -/
def shortest (m : Nat) (e : Int) : Shortest :=
  let num := m * Nat.pow 2 e.toNat
  let den := Nat.pow 2 (-e).toNat
  let guess := ((Nat.toDigits 10 num).length : Int) - (Nat.toDigits 10 den).length
  dropZeros 17 (shortestFrom m e num den 17 (floorLog 10 num den guess))

/-- A power of ten with its sign and at least two digits. -/
def powerText (e : Int) : List Char :=
  let digits := Nat.toDigits 10 e.natAbs
  'e' :: (if e < 0 then '-' else '+') :: (if digits.length < 2 then '0' :: digits else digits)

/-- The digits of a positive number, of which the first has the power `leading`. -/
def place (digits : List Char) (leading : Int) : List Char :=
  if leading < -4 ∨ 16 ≤ leading then
    match digits with
    | [] => []
    | [d] => d :: powerText leading
    | d :: rest => d :: '.' :: rest ++ powerText leading
  else if leading < 0 then '0' :: '.' :: List.replicate (-leading - 1).toNat '0' ++ digits
  else
    let whole := leading.toNat + 1
    if digits.length ≤ whole then
      digits ++ List.replicate (whole - digits.length) '0' ++ ".0".toList
    else digits.take whole ++ '.' :: digits.drop whole

def magnitudeText (m : Nat) (e : Int) : List Char :=
  if m = 0 then "0.0".toList
  else
    let s := shortest m e
    let digits := Nat.toDigits 10 s.digits
    place digits (s.scale + digits.length - 1)

def chars : Binary64 → List Char
  | .finite negative m e => (if negative then ['-'] else []) ++ magnitudeText m e
  | .infinite negative => if negative then "-inf".toList else "inf".toList
  | .nan => "nan".toList

def toText (x : Binary64) : String := String.ofList x.chars

example : (read? "0.1").map toText = some "0.1" := by decide +kernel
example : (read? "0.30000000000000004").map toText = some "0.30000000000000004" := by
  decide +kernel
example : (read? "1e22").map toText = some "1e+22" := by decide +kernel
example : (read? "123456789.125").map toText = some "123456789.125" := by decide +kernel
example : (read? "1e15").map toText = some "1000000000000000.0" := by decide +kernel
example : (read? "0.00001").map toText = some "1e-05" := by decide +kernel
example : (read? "5e-324").map toText = some "5e-324" := by decide +kernel
example : (read? "-0.0").map toText = some "-0.0" := by decide +kernel

end Criteria.Binary64
