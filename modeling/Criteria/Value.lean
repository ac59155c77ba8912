import Criteria.Calendar.DateTime
import Criteria.Guid
import Criteria.Number.Decimal
import Criteria.Number.Shortest

/-!
# Values

The values that a statement compares its columns with.
-/

namespace Criteria

inductive Value where
  | null
  | bool (b : Bool)
  | int (n : Int)
  | decimal (d : Decimal)
  | float (x : Binary64)
  | text (s : String)
  | datetime (t : DateTime)
  | date (d : Date)
  | time (t : Time)
  | guid (g : Guid)
  | bytes (content : List UInt8)
  /-- Bytes that may still be changed by their owner. -/
  | buffer (content : List UInt8)
  | list (items : List Value)
deriving Inhabited

end Criteria
