import Criteria.Text.Padded

/-!
# Calendar days

Days of the Gregorian calendar in the years 1 to 9999.
-/

namespace Criteria

def isLeapYear (year : Nat) : Bool :=
  year % 4 == 0 && (year % 100 != 0 || year % 400 == 0)

def daysInMonth (year month : Nat) : Nat :=
  if month = 2 then (if isLeapYear year then 29 else 28)
  else if month = 4 ∨ month = 6 ∨ month = 9 ∨ month = 11 then 30
  else 31

structure Date where
  year : Nat
  month : Nat
  day : Nat
  valid : (1 ≤ year ∧ year ≤ 9999) ∧ (1 ≤ month ∧ month ≤ 12) ∧
    1 ≤ day ∧ day ≤ daysInMonth year month
deriving DecidableEq

namespace Date

def ofParts? (year month day : Nat) : Option Date :=
  if h : (1 ≤ year ∧ year ≤ 9999) ∧ (1 ≤ month ∧ month ≤ 12) ∧
      1 ≤ day ∧ day ≤ daysInMonth year month then some ⟨year, month, day, h⟩ else none

theorem ofParts?_self (d : Date) : ofParts? d.year d.month d.day = some d := dif_pos d.valid

/-- Year, month and day with hyphens between them. -/
def chars (d : Date) : List Char :=
  Text.padded 4 d.year ++ '-' :: Text.padded 2 d.month ++ '-' :: Text.padded 2 d.day

def toText (d : Date) : String := String.ofList d.chars

/-- Reads a day from the front of a text. -/
def take? (s : List Char) : Option (Date × List Char) := do
  let (year, s) ← Text.takeNumber? 4 s
  let s ← Text.takeChar? '-' s
  let (month, s) ← Text.takeNumber? 2 s
  let s ← Text.takeChar? '-' s
  let (day, s) ← Text.takeNumber? 2 s
  let date ← ofParts? year month day
  return (date, s)

theorem daysInMonth_le (year month : Nat) : daysInMonth year month ≤ 31 := by
  unfold daysInMonth
  split
  · split <;> decide
  · split <;> decide

/-- A written day reads back, whatever follows it. -/
theorem take?_chars (d : Date) (rest : List Char) : take? (d.chars ++ rest) = some (d, rest) := by
  have year : d.year < Nat.pow 10 4 := Nat.lt_of_le_of_lt d.valid.1.2 (by decide)
  have month : d.month < Nat.pow 10 2 := Nat.lt_of_le_of_lt d.valid.2.1.2 (by decide)
  have day : d.day < Nat.pow 10 2 :=
    Nat.lt_of_le_of_lt (Nat.le_trans d.valid.2.2.2 (daysInMonth_le _ _)) (by decide)
  simp [take?, chars, Text.takeNumber?_padded year, Text.takeNumber?_padded month,
    Text.takeNumber?_padded day, Text.takeChar?, ofParts?_self]

/-- The number of days since 1 January 1970. Years are counted from March, so that a leap day
comes last. -/
def dayNumber (d : Date) : Int :=
  let y : Int := if d.month ≤ 2 then d.year - 1 else d.year
  let yearDay : Int := (153 * ((d.month + 9 : Nat) % 12 : Nat) + 2) / 5 + d.day - 1
  365 * y + y / 4 - y / 100 + y / 400 + yearDay - 719468

/-- The day with a given number, if it lies in the calendar. -/
def ofDayNumber? (n : Int) : Option Date :=
  let z := n + 719468
  let era := z / 146097
  let inEra := z % 146097
  let yearInEra := (inEra - inEra / 1460 + inEra / 36524 - inEra / 146096) / 365
  let yearDay := inEra - (365 * yearInEra + yearInEra / 4 - yearInEra / 100)
  let march := (5 * yearDay + 2) / 153
  let day := yearDay - (153 * march + 2) / 5 + 1
  let month := if march < 10 then march + 3 else march - 9
  let year := yearInEra + era * 400 + (if month ≤ 2 then 1 else 0)
  if year < 1 then none else ofParts? year.toNat month.toNat day.toNat

example : (ofParts? 2024 2 29).isSome ∧ (ofParts? 1900 2 29).isNone := by decide
example : (ofDayNumber? 0).map toText = some "1970-01-01" := by decide +kernel
example : (ofDayNumber? (-719162)).map toText = some "0001-01-01" := by decide +kernel
example : (ofDayNumber? (-719163)).map toText = none := by decide +kernel
example : ((ofParts? 2024 2 29).map dayNumber).bind ofDayNumber? = ofParts? 2024 2 29 := by
  decide +kernel
example : (take? "2024-12-31".toList).map (·.1.toText) = some "2024-12-31" := by decide +kernel

end Date
end Criteria
