import Criteria.DataType
import Criteria.Text.Space

/-!
# Literals

Literals: the texts that each kind of data can be read from.
-/

namespace Criteria.DataType

def trueWords : List String := ["1", "true", "t", "yes", "y", "on"]

def falseWords : List String := ["0", "false", "f", "no", "n", "off"]

/-- Words in any case of ASCII. -/
def readBoolean? (s : String) : Option Bool :=
  let lower := String.ofList (s.toList.map Char.toLower)
  if lower ∈ trueWords then some true
  else if lower ∈ falseWords then some false
  else none

/-- The text from the first character that counts, `last` being the zero or underscore before it.
That is a digit or a minus behind the zeros, or the character in front of a point. Of zeros alone
the last character counts. -/
def dropZeros? (last : Char) : List Char → Option (List Char)
  | [] => some [last]
  | c :: s =>
    if c = '0' ∨ c = '_' then dropZeros? c s
    else if c.isDigit ∨ c = '-' then some (c :: s)
    else if c = '.' then some (last :: c :: s)
    else none

/-- A text that starts with a digit, without the zeros in front. -/
def significant? : List Char → Option (List Char)
  | [] => none
  | c :: s =>
    if c = '0' then dropZeros? c s
    else if c.isDigit then some (c :: s)
    else none

/-- Leaves out a point with zeros behind it, up to the end. -/
def dropZeroFraction (s : List Char) : List Char :=
  let fraction := (s.dropWhile (· ≠ '.')).drop 1
  if !fraction.isEmpty && fraction.all (· = '0') then s.takeWhile (· ≠ '.') else s

/-- The number written by digits alone, with no zero in front of another digit. -/
def readDigits? (s : List Char) : Option Nat :=
  if s.isEmpty || Numeral.maxDigits < s.length || !s.all Char.isDigit ||
      (s.head? == some '0' && s.length != 1) then none
  else some (Nat.ofDigitChars 10 s 0)

/-- An integer in its plain form: a minus or nothing, and digits. -/
def readPlain? : List Char → Option Int
  | '-' :: digits => (readDigits? digits).map fun n => -(n : Int)
  | digits => (readDigits? digits).map fun n => (n : Int)

/-- Reads an integer: white space around it, a sign, zeros in front, a fraction of zeros and single
underscores are taken away, and the plain form is left. A minus may also stand behind zeros. -/
def readInteger? (s : String) : Option Int := do
  let (negative, s) := Numeral.readSign (Text.stripChars Text.isWhiteSpace s.toList)
  let s ← significant? s
  let s ← Numeral.dropUnderscores? (dropZeroFraction s)
  readPlain? (if negative then '-' :: s else s)

def readDecimal? (s : String) : Option Decimal := (Decimal.read? s).filter (·.isFinite)

/-- Reads a value of a kind, `none` if the text is no literal of it. -/
def read? (t : DataType) (s : String) : Option Value :=
  match t with
  | .boolean => (readBoolean? s).map .bool
  | .integer => (readInteger? s).map .int
  | .decimal => (readDecimal? s).map .decimal
  | .float => (Binary64.read? s).map .float
  | .string => some (.text s)
  | .date => (Date.readChars? s.toList).map .date
  | .datetime => (DateTime.readChars? s.toList).map .datetime
  | .time => (Time.readChars? s.toList).map .time
  | .guid => (Guid.readChars? s.toList).map .guid
  | .binary => some (.bytes s.toUTF8.toList)
  | .object => some (.text s)

example : readBoolean? "oN" = some true ∧ readBoolean? " on" = none := by decide
example : readInteger? "-1_000.00" = some (-1000) ∧ readInteger? "\t+007\n" = some 7 := by decide
example : readInteger? "1_" = none ∧ readInteger? "1__0" = none ∧ readInteger? "_1" = none := by
  decide
example : readInteger? "1." = none ∧ readInteger? ".0" = none ∧ readInteger? "+-1" = none := by
  decide
example : readInteger? "0-_10" = some (-10) ∧ readInteger? "0__4" = some 4 := by decide
example : readInteger? "-0-3" = none ∧ readInteger? "0_" = none ∧ readInteger? "0+3" = none := by
  decide

end Criteria.DataType
