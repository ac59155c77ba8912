import Criteria.Number.Exact
import Criteria.Tree
import Criteria.Value

/-!
# Equality of values

When two values are the same. Numbers of all kinds are the same when they are equal as numbers,
moments with an offset when they are the same instant, bytes when they have the same content,
lists item by item. What is not a number is the same only as itself, and if it is signaling it
cannot even be compared with other numbers.
-/

namespace Criteria.Value

/-- What a single value has in common with the values that are the same. -/
inductive Atom where
  | null
  | number (x : Exact)
  | infinite (negative : Bool)
  /-- Not a number, told apart by where it was bound. -/
  | nan (signaling : Bool) (origin : Nat)
  | text (s : String)
  | moment (date : Date) (clock : Clock)
  /-- A moment with an offset, in microseconds. -/
  | instant (microseconds : Int)
  | date (d : Date)
  | clock (c : Clock)
  /-- A time of day with an offset, in microseconds of universal time. -/
  | shifted (microseconds : Int)
  | guid (g : Guid)
  | bytes (content : List UInt8)
deriving DecidableEq

namespace Atom

def isNumeric : Atom → Bool
  | number _ => true
  | infinite _ => true
  | nan _ _ => true
  | _ => false

def isSignaling : Atom → Bool
  | nan signaling _ => signaling
  | _ => false

def compared (a b : Atom) : Comparison :=
  if a = b then some true
  else if a.isNumeric && b.isNumeric && (a.isSignaling || b.isSignaling) then none
  else some false

theorem compared_eq_true_iff (a b : Atom) : a.compared b = some true ↔ a = b := by
  unfold compared
  split
  · next h => simp [h]
  · next h => split <;> simp [h]

end Atom

/-- Values are the same when their keys are equal. A list is a node with its length. -/
abbrev Key := Tree Atom Nat

/-- Lists are compared by their lengths first. -/
def Key.compared (a b : Key) : Comparison := Tree.compared Atom.compared a b

theorem Key.compared_eq_true_iff (a b : Key) : a.compared b = some true ↔ a = b :=
  Tree.compared_eq_true_iff Atom.compared_eq_true_iff a b

def decimalAtom (origin : Nat) : Decimal → Atom
  | .finite negative coefficient exponent _ => .number (.ofParts negative coefficient exponent)
  | .infinite negative => .infinite negative
  | .nan _ signaling _ => .nan signaling origin

def floatAtom (origin : Nat) : Binary64 → Atom
  | .finite negative mantissa exponent => .number (.ofBinary negative mantissa exponent)
  | .infinite negative => .infinite negative
  | .nan => .nan false origin

def datetimeAtom (t : DateTime) : Atom :=
  match t.offset with
  | some o => .instant (t.instant o)
  | none => .moment t.date t.clock

def timeAtom (t : Time) : Atom :=
  match t.offset with
  | some o => .shifted (t.clock.microseconds - o.minutes * 60000000)
  | none => .clock t.clock

mutual

def key (origin : Nat) : Value → Key
  | .null => .leaf .null
  | .bool b => .leaf (.number (.ofInt b.toNat))
  | .int n => .leaf (.number (.ofInt n))
  | .decimal d => .leaf (decimalAtom origin d)
  | .float x => .leaf (floatAtom origin x)
  | .text s => .leaf (.text s)
  | .datetime t => .leaf (datetimeAtom t)
  | .date d => .leaf (.date d)
  | .time t => .leaf (timeAtom t)
  | .guid g => .leaf (.guid g)
  | .bytes content => .leaf (.bytes content)
  | .buffer content => .leaf (.bytes content)
  | .list items => .node items.length (keys origin items)

def keys (origin : Nat) : List Value → List Key
  | [] => []
  | v :: rest => key origin v :: keys origin rest

end

example : key 0 (.bool true) = key 1 (.int 1) := by decide +kernel
example : (Binary64.read? "0.5").map (fun x => key 0 (.float x)) =
    (Decimal.read? "0.50").map (fun d => key 0 (.decimal d)) := by decide +kernel
example : (Binary64.read? "0.1").map (fun x => key 0 (.float x)) ≠
    (Decimal.read? "0.1").map (fun d => key 0 (.decimal d)) := by decide +kernel
example : key 0 (.float .nan) ≠ key 1 (.float .nan) := by decide +kernel
example : key 0 (.list [.bytes [1], .null]) = key 0 (.list [.buffer [1], .null]) := by
  decide +kernel

example : Key.compared (.leaf (.nan true 0)) (.leaf (.nan true 0)) = some true := by decide
example : Key.compared (.leaf (.nan true 0)) (key 1 (.int 1)) = none := by decide +kernel
example : Key.compared (.leaf (.nan true 0)) (key 1 (.text "")) = some false := by decide +kernel

end Criteria.Value
