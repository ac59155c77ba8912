import Criteria.Calendar.Clock
import Criteria.Calendar.Date
import Criteria.Number.Binary64

/-!
# Moments

Moments: a day with a time of day, local or with an offset. A moment is also written as a
number, in seconds since the beginning of 1970 or, beyond twenty thousand million, in
milliseconds.
-/

namespace Criteria

structure DateTime where
  date : Date
  clock : Clock
  offset : Option Offset
deriving DecidableEq

namespace DateTime

def chars (separator : Char) (t : DateTime) : List Char :=
  t.date.chars ++ separator :: t.clock.chars ++ offsetChars t.offset

/-- The day and the time with a given character between them. -/
def toTextWith (separator : Char) (t : DateTime) : String := String.ofList (t.chars separator)

/-- The time in universal time, in microseconds since 1970, where the offset is known. -/
def instant (t : DateTime) (o : Offset) : Int :=
  t.date.dayNumber * 86400000000 + t.clock.microseconds - o.minutes * 60000000

/-- The moment a number of microseconds after the beginning of 1970, in universal time. -/
def ofMicroseconds? (n : Int) : Option DateTime := do
  let date ← Date.ofDayNumber? (n / 86400000000)
  let inDay := (n % 86400000000).toNat
  let inMinutes := inDay / 60000000
  let clock ← Clock.ofParts? (inMinutes / 60) (inMinutes % 60) (inDay / 1000000 % 60)
    (inDay % 1000000)
  return ⟨date, clock, some .utc⟩

/-- Numbers beyond this count milliseconds. -/
def millisecondLimit : Nat := 20000000000

/-- A whole number as microseconds. -/
def wholeMicroseconds (n : Int) : Int :=
  if millisecondLimit < n.natAbs then n * 1000 else n * 1000000

/-- The quotient rounded to the nearest integer, half upwards. -/
def roundHalfUp (num : Int) (den : Nat) : Int := (2 * num + den) / (2 * den)

/-- A floating-point number as microseconds. The part of a second behind the greatest whole second
below is rounded as such a number, and again when it is multiplied by a million. A number that
counts milliseconds is large enough for its product with a thousand to be exact. -/
def floatMicroseconds? (x : Binary64) : Option Int := do
  let (num, den) ← x.ratio?
  if millisecondLimit * den < num.natAbs then return roundHalfUp (num * 1000) den
  let (part, unit) ← (Binary64.ofRatio false (num % den).toNat den).ratio?
  let (micros, unit) ← (Binary64.ofRatio false (part.toNat * 1000000) unit).ratio?
  return num / den * 1000000 + roundHalfUp micros unit

/-- Reads a moment written as a number: an integer, or a floating-point number that has a point
and perhaps a power behind it. -/
def readNumber? (s : List Char) : Option DateTime :=
  match (Numeral.readSign s).2.dropWhile Char.isDigit with
  | [] => (Numeral.readInteger? s).bind fun n => ofMicroseconds? (wholeMicroseconds n)
  | '.' :: _ => do
    let n ← Numeral.read? s
    let micros ← floatMicroseconds? (.ofDecimal n.negative n.coefficient n.scale)
    ofMicroseconds? micros
  | _ => none

/-- Reads a day alone, or a day and a time with a letter t, a space or an underscore between. -/
def readCalendar? (s : List Char) : Option DateTime := do
  let (date, s) ← Date.take? s
  match s with
  | [] => some ⟨date, .midnight, none⟩
  | c :: s =>
    if c = 'T' ∨ c = 't' ∨ c = ' ' ∨ c = '_' then do
      let time ← Time.readChars? s
      return ⟨date, time.clock, time.offset⟩
    else none

def readChars? (s : List Char) : Option DateTime := (readCalendar? s).orElse fun _ => readNumber? s

end DateTime

/-- Reads a day, also from the text of a moment at midnight, whatever its offset. -/
def Date.readChars? (s : List Char) : Option Date := do
  let t ← DateTime.readChars? s
  if t.clock = .midnight then some t.date else none

example : (DateTime.readChars? "2024-03-01_12:30".toList).map (·.toTextWith 'T') =
    some "2024-03-01T12:30:00" := by decide +kernel
example : (DateTime.readChars? "-1".toList).map (·.toTextWith ' ') =
    some "1969-12-31 23:59:59+00:00" := by decide +kernel
example : (DateTime.readChars? "20000000001".toList).map (·.toTextWith 'T') =
    some "1970-08-20T11:33:20.001000+00:00" := by decide +kernel
example : (DateTime.readChars? "1700000000123.5".toList).map (·.toTextWith 'T') =
    some "2023-11-14T22:13:20.123500+00:00" := by decide +kernel
example : (DateTime.readChars? "20000000000.5".toList).map (·.toTextWith 'T') =
    some "1970-08-20T11:33:20.000500+00:00" := by decide +kernel
example : (DateTime.readChars? "1.5E+3".toList).map (·.toTextWith 'T') =
    some "1970-01-01T00:25:00+00:00" := by decide +kernel
example : (Date.readChars? "86400.0".toList).map Date.toText = some "1970-01-02" := by
  decide +kernel
example : Date.readChars? "86401".toList = none ∧ Date.readChars? "1e5".toList = none := by
  decide +kernel

end Criteria
