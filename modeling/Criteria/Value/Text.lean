import Criteria.Error
import Criteria.Text.Quoted

/-!
# Texts of values

The texts that values have when they are written into a statement instead of being bound. An
integer with too many digits has none, nor has a list with such a number in it.
-/

namespace Criteria

namespace Value

def boolText (b : Bool) : String := if b then "True" else "False"

/-- The numbers in parentheses that a moment or a time is made of. Seconds are left out when
nothing but zeros would follow. -/
def clockArguments (c : Clock) : List String :=
  [c.hour.repr, c.minute.repr] ++
    (if c.microsecond ≠ 0 then [c.second.repr, c.microsecond.repr]
     else if c.second ≠ 0 then [c.second.repr] else [])

/-- An offset by whole days and the seconds after them. -/
def offsetText (o : Offset) : String :=
  if o.minutes = 0 then "datetime.timezone.utc"
  else
    let days := if o.minutes < 0 then "days=-1, " else ""
    "datetime.timezone(datetime.timedelta(" ++ days ++ "seconds=" ++
      (o.minutes % 1440 * 60).toNat.repr ++ "))"

def offsetArguments : Option Offset → List String
  | some o => ["tzinfo=" ++ offsetText o]
  | none => []

def dateArguments (d : Date) : List String := [d.year.repr, d.month.repr, d.day.repr]

def call (name : String) (arguments : List String) : String :=
  name ++ "(" ++ String.intercalate ", " arguments ++ ")"

mutual

/-- The text of a value inside a list: it shows what kind of value it is. -/
def itemText : Value → Except Error String
  | .null => .ok "None"
  | .bool b => .ok (boolText b)
  | .int n => integerText n
  | .decimal d => .ok (call "Decimal" [Text.quoted d.toText])
  | .float x => .ok x.toText
  | .text s => .ok (Text.quoted s)
  | .datetime t => .ok (call "datetime.datetime"
      (dateArguments t.date ++ clockArguments t.clock ++ offsetArguments t.offset))
  | .date d => .ok (call "datetime.date" (dateArguments d))
  | .time t => .ok (call "datetime.time" (clockArguments t.clock ++ offsetArguments t.offset))
  | .guid g => .ok (call "UUID" [Text.quoted g.toText])
  | .bytes content => .ok (Text.quotedBytes content)
  | .buffer content => .ok (Text.quotedBuffer content)
  | .list items => do return "[" ++ String.intercalate ", " (← itemTexts items) ++ "]"

def itemTexts : List Value → Except Error (List String)
  | [] => .ok []
  | v :: rest => do
    let text ← itemText v
    return text :: (← itemTexts rest)

end

/-- The text of a value that is written into a statement. -/
def toText : Value → Except Error String
  | .null => .ok "NULL"
  | .decimal d => .ok d.toText
  | .text s => .ok s
  | .datetime t => .ok (t.toTextWith ' ')
  | .date d => .ok d.toText
  | .time t => .ok t.toText
  | .guid g => .ok g.toText
  | v => v.itemText

mutual

/-- The integers in a value, alone or in lists. -/
def integers : Value → List Int
  | .int n => [n]
  | .list items => integersOfAll items
  | _ => []

def integersOfAll : List Value → List Int
  | [] => []
  | v :: rest => integers v ++ integersOfAll rest

end

theorem integerText_cases (n : Int) :
    (integerText n = .ok n.repr ∧ Numeral.Short n.natAbs) ∨
      (integerText n = .error .longNumber ∧ ¬ Numeral.Short n.natAbs) := by
  by_cases short : Numeral.Short n.natAbs
  · exact .inl ⟨if_pos short, short⟩
  · exact .inr ⟨if_neg short, short⟩

mutual

theorem itemText_cases (v : Value) :
    (∃ text, v.itemText = .ok text ∧ ∀ n ∈ v.integers, Numeral.Short n.natAbs) ∨
      (v.itemText = .error .longNumber ∧ ∃ n ∈ v.integers, ¬ Numeral.Short n.natAbs) := by
  cases v with
  | int n =>
    rw [itemText, integers]
    rcases integerText_cases n with ⟨written, short⟩ | ⟨failed, long⟩
    · exact .inl ⟨_, written, fun m mem => List.mem_singleton.mp mem ▸ short⟩
    · exact .inr ⟨failed, n, List.mem_cons_self, long⟩
  | list items =>
    rw [itemText, integers]
    rcases itemTexts_cases items with ⟨texts, written, short⟩ | ⟨failed, long⟩
    · rw [written]
      exact .inl ⟨_, rfl, short⟩
    · rw [failed]
      exact .inr ⟨rfl, long⟩
  | _ => exact .inl ⟨_, rfl, nofun⟩

theorem itemTexts_cases (items : List Value) :
    (∃ texts, itemTexts items = .ok texts ∧ ∀ n ∈ integersOfAll items, Numeral.Short n.natAbs) ∨
      (itemTexts items = .error .longNumber ∧
        ∃ n ∈ integersOfAll items, ¬ Numeral.Short n.natAbs) := by
  cases items with
  | nil => exact .inl ⟨[], rfl, nofun⟩
  | cons v rest =>
    rw [itemTexts, integersOfAll]
    rcases itemText_cases v with ⟨text, written, short⟩ | ⟨failed, n, mem, long⟩
    · rw [written]
      rcases itemTexts_cases rest with ⟨texts, others, shorts⟩ | ⟨failed, n, mem, long⟩
      · rw [others]
        exact .inl ⟨_, rfl, List.forall_mem_append.mpr ⟨short, shorts⟩⟩
      · rw [failed]
        exact .inr ⟨rfl, n, List.mem_append_right _ mem, long⟩
    · rw [failed]
      exact .inr ⟨rfl, n, List.mem_append_left _ mem, long⟩

end

/-- A value has a text unless an integer in it has too many digits. -/
theorem toText_cases (v : Value) :
    (∃ text, v.toText = .ok text ∧ ∀ n ∈ v.integers, Numeral.Short n.natAbs) ∨
      (v.toText = .error .longNumber ∧ ∃ n ∈ v.integers, ¬ Numeral.Short n.natAbs) := by
  cases v with
  | bool | int | float | bytes | buffer | list => exact itemText_cases _
  | null | decimal | text | datetime | date | time | guid => exact .inl ⟨_, rfl, nofun⟩

example : (toText (.list [.null, .bool true, .text "it's", .bytes [0, 255]])).toOption =
    some "[None, True, \"it's\", b'\\x00\\xff']" := by decide +kernel
example : (Decimal.read? "1.50").bind (fun d => (toText (.list [.decimal d])).toOption) =
    some "[Decimal('1.50')]" := by decide +kernel
example : (DateTime.readChars? "2024-01-02T12:00-01:00".toList).bind
    (fun t => (toText (.list [.datetime t])).toOption) =
    some ("[datetime.datetime(2024, 1, 2, 12, 0, " ++
      "tzinfo=datetime.timezone(datetime.timedelta(days=-1, seconds=82800)))]") := by
  decide +kernel

end Value
end Criteria
