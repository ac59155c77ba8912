import Criteria.Text.Padded

/-!
# Times of day

Times of day to the microsecond, alone or with an offset from universal time.
-/

namespace Criteria

structure Clock where
  hour : Nat
  minute : Nat
  second : Nat
  microsecond : Nat
  valid : hour < 24 ∧ minute < 60 ∧ second < 60 ∧ microsecond < 1000000
deriving DecidableEq

/-- East of universal time, in minutes; less than a day either way. -/
structure Offset where
  minutes : Int
  valid : -1440 < minutes ∧ minutes < 1440
deriving DecidableEq

structure Time where
  clock : Clock
  offset : Option Offset
deriving DecidableEq

namespace Clock

def midnight : Clock := ⟨0, 0, 0, 0, by decide⟩

def ofParts? (hour minute second microsecond : Nat) : Option Clock :=
  if h : hour < 24 ∧ minute < 60 ∧ second < 60 ∧ microsecond < 1000000 then
    some ⟨hour, minute, second, microsecond, h⟩
  else none

theorem ofParts?_self (c : Clock) : ofParts? c.hour c.minute c.second c.microsecond = some c :=
  dif_pos c.valid

/-- Hours, minutes and seconds, with six places of a second unless they are all zero. -/
def chars (c : Clock) : List Char :=
  Text.padded 2 c.hour ++ ':' :: Text.padded 2 c.minute ++ ':' :: Text.padded 2 c.second ++
    (if c.microsecond = 0 then [] else '.' :: Text.padded 6 c.microsecond)

def microseconds (c : Clock) : Int :=
  ((c.hour * 60 + c.minute) * 60 + c.second) * 1000000 + c.microsecond

/-- The first six digits of a fraction as millionths; the others are cut off. -/
def millionths (digits : List Char) : Nat :=
  let kept := digits.take 6
  Nat.ofDigitChars 10 kept 0 * Nat.pow 10 (6 - kept.length)

/-- Reads what may follow the minutes: seconds, and behind them a fraction of at least one digit
after a point or a comma. -/
def takeSeconds? : List Char → Option (Nat × Nat × List Char)
  | ':' :: s => do
    let (second, s) ← Text.takeNumber? 2 s
    match s with
    | c :: t =>
      if c = '.' ∨ c = ',' then
        let digits := t.takeWhile Char.isDigit
        if digits.isEmpty then none
        else some (second, millionths digits, t.dropWhile Char.isDigit)
      else some (second, 0, c :: t)
    | [] => some (second, 0, [])
  | s => some (0, 0, s)

/-- Reads a time of day from the front of a text. -/
def take? (s : List Char) : Option (Clock × List Char) := do
  let (hour, s) ← Text.takeNumber? 2 s
  let s ← Text.takeChar? ':' s
  let (minute, s) ← Text.takeNumber? 2 s
  let (second, microsecond, s) ← takeSeconds? s
  let clock ← ofParts? hour minute second microsecond
  return (clock, s)

end Clock

namespace Offset

def utc : Offset := ⟨0, by decide⟩

def chars (o : Offset) : List Char :=
  (if o.minutes < 0 then '-' else '+') :: Text.padded 2 (o.minutes.natAbs / 60) ++
    ':' :: Text.padded 2 (o.minutes.natAbs % 60)

def ofParts? (negative : Bool) (hour minute : Nat) : Option Offset :=
  if h : hour < 24 ∧ minute < 60 then
    let n : Int := (hour * 60 + minute : Nat)
    some ⟨if negative then -n else n, by split <;> omega⟩
  else none

/-- Reads an offset, or its absence, at the end of a text: the letter for universal time, or a
sign (also the minus of mathematics) with hours and minutes. -/
def readEnd? : List Char → Option (Option Offset)
  | [] => some none
  | ['Z'] => some (some utc)
  | ['z'] => some (some utc)
  | c :: s =>
    if c = '+' ∨ c = '-' ∨ c = '−' then do
      let (hour, s) ← Text.takeNumber? 2 s
      let (minute, s) ← Text.takeNumber? 2 (match s with | ':' :: t => t | t => t)
      if s.isEmpty then (ofParts? (c != '+') hour minute).map some else none
    else none

end Offset

/-- A written time of day with an optional offset, and nothing else. -/
def Time.readChars? (s : List Char) : Option Time := do
  let (clock, s) ← Clock.take? s
  let offset ← Offset.readEnd? s
  return ⟨clock, offset⟩

def offsetChars : Option Offset → List Char
  | some o => o.chars
  | none => []

def Time.chars (t : Time) : List Char := t.clock.chars ++ offsetChars t.offset

def Time.toText (t : Time) : String := String.ofList t.chars

example : (Time.readChars? "12:30:45,25+05:30".toList).map Time.toText =
    some "12:30:45.250000+05:30" := by decide +kernel
example : (Time.readChars? "12:30-0800".toList).map Time.toText = some "12:30:00-08:00" := by
  decide +kernel
example : Time.readChars? "12:30:45.".toList = none ∧ Time.readChars? "24:00".toList = none := by
  decide +kernel
example : (Time.readChars? "12:30:45.1234567z".toList).map Time.toText =
    some "12:30:45.123456+00:00" := by decide +kernel

end Criteria
