import Criteria.Number.Binary64
import Criteria.Template.Spec

/-!
# Numbers in templates

How a specification sets a number: as an integer in one of four bases, as a character, or as a
decimal fraction with or without a power. What is written has a head, digits that may be grouped,
and a tail, so that zeros and separators go between head and tail. A decimal fraction is that of the
binary floating-point number nearest to the number.
-/

namespace Criteria.Template

open Text (CodePoint)

/-- The parts of a number that is written. -/
structure Figures where
  /-- The sign and the mark of the base. -/
  head : List Char
  digits : List Char
  /-- What follows the digits in front of the point. -/
  tail : List Char
deriving DecidableEq

namespace Figures

/-- Digits in groups from the last one on, in reverse, filled up with zeros to a width. A group
begins only where a digit stands in front of the separator. -/
def groupReversed (separator : Char) (size : Nat) : Nat → Nat → List Char → List Char
  | 0, _, digits => digits
  | fuel + 1, width, digits =>
    let length := min size (max 1 (max digits.length width))
    let group := digits.take length ++ List.replicate (length - digits.length) '0'
    let rest := digits.drop length
    if rest.isEmpty && width ≤ length then group
    else group ++ separator :: groupReversed separator size fuel (width - length - 1) rest

/-- Digits in groups, or filled up with zeros alone if there is no separator. -/
def grouped (separator : Option Char) (size width : Nat) (digits : List Char) : List Char :=
  match separator with
  | none => List.replicate (width - digits.length) '0' ++ digits
  | some c => (groupReversed c size (digits.length + width) width digits.reverse).reverse

/-- Fills up to the width, by zeros that count as digits if the specification has them. -/
def place (spec : Spec) (groupSize : Nat) (f : Figures) : List CodePoint :=
  let outside := f.head.length + f.tail.length
  let least := if spec.fill = '0' ∧ spec.align = '=' then spec.width.getD 0 - outside else 0
  let digits := grouped spec.separator groupSize least f.digits
  spec.place (CodePoint.ofChars f.head) (CodePoint.ofChars (digits ++ f.tail))

end Figures

namespace Spec

/-- Things of several kinds are set as numbers. -/
def numberSetting (kind : String) : Setting := ⟨kind, 'd', '>'⟩

/-- The sign of a number that is not negative. -/
def signChars (spec : Spec) : List Char :=
  match spec.sign with
  | some '+' => ['+']
  | some ' ' => [' ']
  | _ => []

/-- A number in the base that a letter stands for. -/
def integerFigures (spec : Spec) (base n : Nat) : Figures where
  head := spec.signChars ++ (if spec.alternate ∧ base ≠ 10 then ['0', spec.type.toChar] else [])
  digits :=
    let digits := Nat.toDigits base n
    if spec.type = 'X' then digits.map Char.toUpper else digits
  tail := []

/-- Refuses what has no meaning for an integer. -/
def checkInteger (spec : Spec) : Except Fault Unit := do
  if spec.precision.isSome then throw .precisionNotAllowed
  if spec.noNegativeZero then throw .negativeZeroNotForNumber

/-- What a number is the code of. -/
def codePoint (spec : Spec) (n : Nat) : Except Fault CodePoint := do
  spec.checkInteger
  if spec.sign.isSome then throw .signNotForCharacter
  if spec.alternate then throw .alternateNotForCharacter
  if 0x110000 ≤ n then throw .notCharacter
  return .ofNat n

/-- Digits behind the point, and the point where digits follow or the long form is asked for. -/
def fraction (spec : Spec) (digits : List Char) : List Char :=
  if digits.isEmpty && !spec.alternate then [] else '.' :: digits

/-- The first digits of a number, and the power of ten of the first one. A half goes to the even
neighbour. -/
def leading (count n : Nat) : List Char × Nat :=
  let digits := Nat.toDigits 10 n
  if digits.length ≤ count then
    (digits ++ List.replicate (count - digits.length) '0', digits.length - 1)
  else
    let rounded :=
      Nat.toDigits 10 (Binary64.roundHalfEven n (Nat.pow 10 (digits.length - count)))
    (rounded.take count, digits.length - 1 + (rounded.length - count))

/-- A power of ten with at least two digits. -/
def powerChars (letter : Char) (power : Nat) : List Char :=
  let digits := Nat.toDigits 10 power
  letter :: '+' :: List.replicate (2 - digits.length) '0' ++ digits

def dropTrailingZeros (digits : List Char) : List Char :=
  (digits.reverse.dropWhile (· = '0')).reverse

/-- A number with digits behind the point. -/
def fixedFigures (spec : Spec) (precision n : Nat) (tail : List Char) : Figures :=
  ⟨spec.signChars, Nat.toDigits 10 n, spec.fraction (List.replicate precision '0') ++ tail⟩

/-- A number with one digit in front of the point, and a power. -/
def scientificFigures (spec : Spec) (letter : Char) (precision n : Nat) : Figures :=
  let (digits, power) := leading (precision + 1) n
  ⟨spec.signChars, digits.take 1, spec.fraction (digits.drop 1) ++ powerChars letter power⟩

/-- A number with as many digits as the precision says, and a power if it has more in front of the
point. Zeros at the end are left out of the short form. -/
def generalFigures (spec : Spec) (letter : Char) (precision n : Nat) : Figures :=
  let count := max 1 precision
  let (digits, power) := leading count n
  let kept := fun (tail : List Char) => if spec.alternate then tail else dropTrailingZeros tail
  if power < count then
    ⟨spec.signChars, digits.take (power + 1), spec.fraction (kept (digits.drop (power + 1)))⟩
  else
    ⟨spec.signChars, digits.take 1,
      spec.fraction (kept (digits.drop 1)) ++ powerChars letter power⟩

/-- A number as a fraction, in the form that a letter stands for. The number and its hundredfold are
those that a binary floating-point number can be. -/
def fractionFigures (spec : Spec) (n : Nat) : Except Fault Figures := do
  let precision := spec.precision.getD 6
  if Nat.pow 2 31 ≤ precision then throw .precisionTooBig
  checkRoom (some precision)
  let n := Binary64.roundWhole n
  match spec.type.toChar with
  | '%' => return spec.fixedFigures precision (Binary64.roundWhole (100 * n)) ['%']
  | 'e' => return spec.scientificFigures 'e' precision n
  | 'E' => return spec.scientificFigures 'E' precision n
  | 'g' => return spec.generalFigures 'e' precision n
  | 'G' => return spec.generalFigures 'E' precision n
  | _ => return spec.fixedFigures precision n []

/-- The base that a letter for integers stands for. -/
def base? : Char → Option Nat
  | 'd' => some 10
  | 'n' => some 10
  | 'b' => some 2
  | 'o' => some 8
  | 'x' => some 16
  | 'X' => some 16
  | _ => none

def isFractional (type : Char) : Bool := type ∈ ['e', 'E', 'f', 'F', 'g', 'G', '%']

/-- Separators stand between three digits, in bases other than ten between four. -/
def groupSize (type : Char) : Nat := if type ∈ ['b', 'o', 'x', 'X'] then 4 else 3

/-- The parts of a number in the form that its specification asks for. -/
def figures (spec : Spec) (kind : String) (n : Nat) : Except Fault Figures := do
  if isFractional spec.type.toChar then spec.fractionFigures n
  else
    match base? spec.type.toChar with
    | none => throw (.unknownType spec.type kind)
    | some base =>
      spec.checkInteger
      return spec.integerFigures base n

end Spec

/-- A number as a specification sets it. An empty one leaves it as it is. -/
def setNumber (kind : String) (spec : List CodePoint) (n : Nat) : Except Fault (List CodePoint) :=
  if spec.isEmpty then .ok (CodePoint.ofChars (Nat.toDigits 10 n))
  else do
    let spec ← Spec.read (Spec.numberSetting kind) spec
    if spec.type = 'c' then
      let c ← spec.codePoint n
      Spec.checkRoom spec.width
      return spec.place [] [c]
    else
      let figures ← spec.figures kind n
      Spec.checkRoom spec.width
      return figures.place spec (Spec.groupSize spec.type.toChar)

example : (setNumber "int" (CodePoint.ofChars "08,".toList) 1234).toOption =
    some (CodePoint.ofChars "0,001,234".toList) := by decide +kernel
example : (setNumber "int" (CodePoint.ofChars "#x".toList) 255).toOption =
    some (CodePoint.ofChars "0xff".toList) := by decide +kernel
example : (setNumber "int" (CodePoint.ofChars "*^+7".toList) 80).toOption =
    some (CodePoint.ofChars "**+80**".toList) := by decide +kernel
example : (setNumber "int" (CodePoint.ofChars ".2e".toList) 12350).toOption =
    some (CodePoint.ofChars "1.24e+04".toList) := by decide +kernel
example : (setNumber "int" (CodePoint.ofChars "g".toList) 2148031744).toOption =
    some (CodePoint.ofChars "2.14803e+09".toList) := by decide +kernel
example : (setNumber "int" (CodePoint.ofChars "f".toList) 9007199254740993).toOption =
    some (CodePoint.ofChars "9007199254740992.000000".toList) := by decide +kernel
example : (setNumber "int" ['c'] 0xD800).toOption = some [.surrogate 0xD800] := by decide +kernel

end Criteria.Template
