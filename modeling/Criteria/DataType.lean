import Criteria.Value

/-!
# Kinds of data

The kinds of data a value is bound as.
-/

namespace Criteria

inductive DataType where
  | boolean
  | integer
  | decimal
  | float
  | string
  | date
  | datetime
  | time
  | guid
  | binary
  | object
deriving DecidableEq, Hashable

namespace DataType

def all : List DataType :=
  [.boolean, .integer, .decimal, .float, .string, .date, .datetime, .time, .guid, .binary, .object]

def name : DataType → String
  | .boolean => "boolean"
  | .integer => "integer"
  | .decimal => "decimal"
  | .float => "float"
  | .string => "string"
  | .date => "date"
  | .datetime => "datetime"
  | .time => "time"
  | .guid => "guid"
  | .binary => "binary"
  | .object => "object"

def ofName? (name : String) : Option DataType := all.find? (·.name = name)

/-- The kind a value has by itself. What is null or a list has none of its own. -/
def infer : Value → DataType
  | .bool _ => .boolean
  | .int _ => .integer
  | .decimal _ => .decimal
  | .float _ => .float
  | .text _ => .string
  | .datetime _ => .datetime
  | .date _ => .date
  | .time _ => .time
  | .guid _ => .guid
  | .bytes _ => .binary
  | .buffer _ => .binary
  | .null => .object
  | .list _ => .object

/-- The kind of the first value that is not null. -/
def inferFirst (values : List Value) : DataType :=
  match values with
  | [] => .object
  | .null :: rest => inferFirst rest
  | v :: _ => infer v

/-- Whether a value belongs to a kind. Booleans count as integers, moments as days, and
everything is an object. -/
def admits : DataType → Value → Bool
  | .boolean, .bool _ => true
  | .integer, .int _ => true
  | .integer, .bool _ => true
  | .decimal, .decimal _ => true
  | .float, .float _ => true
  | .string, .text _ => true
  | .date, .date _ => true
  | .date, .datetime _ => true
  | .datetime, .datetime _ => true
  | .time, .time _ => true
  | .guid, .guid _ => true
  | .binary, .bytes _ => true
  | .object, _ => true
  | _, _ => false

example : ofName? "int" = none := by decide

end DataType
end Criteria
