/-!
# Parts of a date

The parts of a date that a statement can ask for.
-/

namespace Criteria

inductive DatePart where
  | year
  | quarter
  | month
  | week
  | dayOfYear
  | day
  | weekday
  | hour
  | minute
  | second
deriving DecidableEq

namespace DatePart

def all : List DatePart :=
  [.year, .quarter, .month, .week, .dayOfYear, .day, .weekday, .hour, .minute, .second]

def name : DatePart → String
  | .year => "YEAR"
  | .quarter => "QUARTER"
  | .month => "MONTH"
  | .week => "WEEK"
  | .dayOfYear => "DAY_OF_YEAR"
  | .day => "DAY"
  | .weekday => "WEEKDAY"
  | .hour => "HOUR"
  | .minute => "MINUTE"
  | .second => "SECOND"

/-- The place of a part in the tables of the dialects. -/
def index : DatePart → Fin 10
  | .year => 0
  | .quarter => 1
  | .month => 2
  | .week => 3
  | .dayOfYear => 4
  | .day => 5
  | .weekday => 6
  | .hour => 7
  | .minute => 8
  | .second => 9

def ofName? (name : String) : Option DatePart := all.find? (·.name = name)

def ofNumber? (n : Int) : Option DatePart := all.find? fun p => (p.index.val : Int) = n

end DatePart
end Criteria
