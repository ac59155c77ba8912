import Criteria.Proofs.Number.Exact
import Criteria.Value.Key
import Mathlib.Data.List.Forall2

/-!
# Values that are the same

When two values count as the same, said without keys: two numbers of any kinds when they are one
rational number, moments and times with an offset when they are one instant, bytes by their content,
lists item by item, and anything else when it is equal. Keys agree exactly for such values. What is
not a number is the same as nothing, not even as itself under another name.
-/

namespace Criteria.Value

mutual

/-- Whether a value is not a number, or a list with such a value in it. -/
def hasNan : Value → Bool
  | .decimal (.nan _ _ _) => true
  | .float .nan => true
  | .list items => anyNan items
  | _ => false

def anyNan : List Value → Bool
  | [] => false
  | v :: rest => hasNan v || anyNan rest

end

theorem anyNan_eq_false_iff {items : List Value} :
    anyNan items = false ↔ ∀ v ∈ items, v.hasNan = false := by
  induction items with
  | nil => simp [anyNan]
  | cons v rest ih => simp [anyNan, ih]

/-- The rational number that a value is. -/
def number? : Value → Option ℚ
  | .bool b => some b.toNat
  | .int n => some n
  | .decimal (.finite negative coefficient exponent _) =>
    some (signed negative (coefficient * 10 ^ exponent))
  | .float (.finite negative mantissa exponent) => some (signed negative (mantissa * 2 ^ exponent))
  | _ => none

/-- The sign of a value that is infinite. -/
def infinity? : Value → Option Bool
  | .decimal (.infinite negative) => some negative
  | .float (.infinite negative) => some negative
  | _ => none

def content? : Value → Option (List UInt8)
  | .bytes content => some content
  | .buffer content => some content
  | _ => none

/-- A moment with an offset, in microseconds of universal time. -/
def instant? : Value → Option Int
  | .datetime t => t.offset.map t.instant
  | _ => none

/-- A time of day with an offset, in microseconds of universal time. -/
def shifted? : Value → Option Int
  | .time t => t.offset.map fun o => t.clock.microseconds - o.minutes * 60000000
  | _ => none

inductive Same : Value → Value → Prop
  | null : Same .null .null
  | number {v w : Value} {q : ℚ} (left : v.number? = some q) (right : w.number? = some q) : Same v w
  | infinite {v w : Value} {negative : Bool} (left : v.infinity? = some negative)
      (right : w.infinity? = some negative) : Same v w
  | text {s : String} : Same (.text s) (.text s)
  | bytes {v w : Value} {content : List UInt8} (left : v.content? = some content)
      (right : w.content? = some content) : Same v w
  | instant {v w : Value} {n : Int} (left : v.instant? = some n) (right : w.instant? = some n) :
      Same v w
  | moment {day : Date} {clock : Clock} :
      Same (.datetime ⟨day, clock, none⟩) (.datetime ⟨day, clock, none⟩)
  | date {d : Date} : Same (.date d) (.date d)
  | shifted {v w : Value} {n : Int} (left : v.shifted? = some n) (right : w.shifted? = some n) :
      Same v w
  | clock {clock : Clock} : Same (.time ⟨clock, none⟩) (.time ⟨clock, none⟩)
  | guid {g : Guid} : Same (.guid g) (.guid g)
  | list {items items' : List Value} (each : List.Forall₂ Same items items') :
      Same (.list items) (.list items')

/-- What is known of a value whose key is a single atom. -/
def ReadsAs (v : Value) : Atom → Prop
  | .null => v = .null
  | .number x => x.IsNormal ∧ v.number? = some x.value
  | .infinite negative => v.infinity? = some negative
  | .nan _ _ => v.hasNan = true
  | .text s => v = .text s
  | .moment day clock => v = .datetime ⟨day, clock, none⟩
  | .instant n => v.instant? = some n
  | .date d => v = .date d
  | .clock clock => v = .time ⟨clock, none⟩
  | .shifted n => v.shifted? = some n
  | .guid g => v = .guid g
  | .bytes content => v.content? = some content

theorem readsAs_of_key {v : Value} {origin : Nat} {a : Atom} (h : v.key origin = .leaf a) :
    v.ReadsAs a := by
  cases v with
  | list items => cases h
  | bool b =>
    cases h
    exact ⟨Exact.isNormal_ofInt _, by rw [Exact.value_ofInt]; rfl⟩
  | int n =>
    cases h
    exact ⟨Exact.isNormal_ofInt _, by rw [Exact.value_ofInt]; rfl⟩
  | decimal d =>
    cases d with
    | finite negative coefficient exponent fits =>
      cases h
      exact ⟨Exact.isNormal_ofParts .., by rw [Exact.value_ofParts]; rfl⟩
    | infinite negative => cases h; rfl
    | nan negative signaling payload => cases h; rfl
  | float x =>
    cases x with
    | finite negative mantissa exponent =>
      cases h
      exact ⟨Exact.isNormal_ofBinary .., by rw [Exact.value_ofBinary]; rfl⟩
    | infinite negative => cases h; rfl
    | nan => cases h; rfl
  | datetime t =>
    obtain ⟨day, clock, offset⟩ := t
    cases offset <;> cases h <;> rfl
  | time t =>
    obtain ⟨clock, offset⟩ := t
    cases offset <;> cases h <;> rfl
  | _ => cases h; rfl

theorem key_of_number {v : Value} {q : ℚ} (h : v.number? = some q) :
    ∃ x : Exact, x.IsNormal ∧ x.value = q ∧ ∀ origin, v.key origin = .leaf (.number x) := by
  cases v with
  | bool b =>
    cases h
    exact ⟨_, Exact.isNormal_ofInt _, Exact.value_ofInt _, fun _ => rfl⟩
  | int n =>
    cases h
    exact ⟨_, Exact.isNormal_ofInt _, Exact.value_ofInt _, fun _ => rfl⟩
  | decimal d =>
    cases d <;> cases h
    exact ⟨_, Exact.isNormal_ofParts .., Exact.value_ofParts .., fun _ => rfl⟩
  | float x =>
    cases x <;> cases h
    exact ⟨_, Exact.isNormal_ofBinary .., Exact.value_ofBinary .., fun _ => rfl⟩
  | _ => cases h

theorem key_of_infinity {v : Value} {negative : Bool} (h : v.infinity? = some negative)
    (origin : Nat) : v.key origin = .leaf (.infinite negative) := by
  cases v with
  | decimal d => cases d <;> cases h; rfl
  | float x => cases x <;> cases h; rfl
  | _ => cases h

theorem key_of_content {v : Value} {content : List UInt8} (h : v.content? = some content)
    (origin : Nat) : v.key origin = .leaf (.bytes content) := by
  cases v <;> cases h <;> rfl

theorem key_of_instant {v : Value} {n : Int} (h : v.instant? = some n) (origin : Nat) :
    v.key origin = .leaf (.instant n) := by
  cases v with
  | datetime t =>
    obtain ⟨day, clock, offset⟩ := t
    cases offset <;> cases h
    rfl
  | _ => cases h

theorem key_of_shifted {v : Value} {n : Int} (h : v.shifted? = some n) (origin : Nat) :
    v.key origin = .leaf (.shifted n) := by
  cases v with
  | time t =>
    obtain ⟨clock, offset⟩ := t
    cases offset <;> cases h
    rfl
  | _ => cases h

/-- Values that are the same have one key, wherever they were bound. -/
theorem key_eq_of_same {v w : Value} (h : Same v w) (m n : Nat) : v.key m = w.key n := by
  refine @Same.rec (fun v w _ => v.key m = w.key n)
    (fun items items' _ => items.length = items'.length ∧ keys m items = keys n items')
    rfl ?number ?infinite rfl ?bytes ?instant rfl rfl ?shifted rfl rfl ?list ⟨rfl, rfl⟩ ?cons v w h
  case number =>
    intro v w q left right
    obtain ⟨x, normalX, valueX, keyX⟩ := key_of_number left
    obtain ⟨y, normalY, valueY, keyY⟩ := key_of_number right
    rw [keyX, keyY, Exact.eq_of_value_eq normalX normalY (valueX.trans valueY.symm)]
  case infinite =>
    intro v w negative left right
    rw [key_of_infinity left, key_of_infinity right]
  case bytes =>
    intro v w content left right
    rw [key_of_content left, key_of_content right]
  case instant =>
    intro v w k left right
    rw [key_of_instant left, key_of_instant right]
  case shifted =>
    intro v w k left right
    rw [key_of_shifted left, key_of_shifted right]
  case list =>
    intro items items' _ ⟨length, each⟩
    rw [key, key, length, each]
  case cons =>
    intro v w items items' _ _ first ⟨length, rest⟩
    rw [keys, keys, first, rest, List.length_cons, List.length_cons, length]
    exact ⟨rfl, rfl⟩

/-- Two values with one atom for a key are the same, unless they are not numbers. -/
theorem same_of_readsAs {v w : Value} {a : Atom} (left : v.ReadsAs a) (right : w.ReadsAs a)
    (free : v.hasNan = false) : Same v w := by
  cases a with
  | number x => exact .number left.2 right.2
  | infinite negative => exact .infinite left right
  | nan signaling origin => cases free.symm.trans left
  | instant n => exact .instant left right
  | shifted n => exact .shifted left right
  | bytes content => exact .bytes left right
  | null =>
    obtain rfl : v = .null := left
    obtain rfl : w = .null := right
    exact .null
  | text s =>
    obtain rfl : v = .text s := left
    obtain rfl : w = .text s := right
    exact .text
  | moment day clock =>
    obtain rfl : v = .datetime ⟨day, clock, none⟩ := left
    obtain rfl : w = .datetime ⟨day, clock, none⟩ := right
    exact .moment
  | date d =>
    obtain rfl : v = .date d := left
    obtain rfl : w = .date d := right
    exact .date
  | clock clock =>
    obtain rfl : v = .time ⟨clock, none⟩ := left
    obtain rfl : w = .time ⟨clock, none⟩ := right
    exact .clock
  | guid g =>
    obtain rfl : v = .guid g := left
    obtain rfl : w = .guid g := right
    exact .guid

mutual

theorem same_of_key_eq (v w : Value) (free : v.hasNan = false) {m n : Nat}
    (h : v.key m = w.key n) : Same v w := by
  cases atom : v.key m with
  | leaf a => exact same_of_readsAs (readsAs_of_key atom) (readsAs_of_key (h ▸ atom)) free
  | node count children =>
    cases v with
    | list items =>
      cases w with
      | list items' =>
        simp only [key, Tree.node.injEq] at h
        exact .list (same_of_keys_eq items items' free h.2)
      | _ => simp [key] at h
    | _ => simp [key] at atom

theorem same_of_keys_eq (items items' : List Value) (free : anyNan items = false) {m n : Nat}
    (h : keys m items = keys n items') : List.Forall₂ Same items items' :=
  match items with
  | [] => by
    cases items' with
    | nil => exact .nil
    | cons w rest' => cases h
  | v :: rest => by
    cases items' with
    | nil => cases h
    | cons w rest' =>
      obtain ⟨first, others⟩ := List.cons.inj h
      obtain ⟨own, free⟩ := Bool.or_eq_false_iff.mp free
      exact .cons (same_of_key_eq v w own first) (same_of_keys_eq rest rest' free others)

end

theorem same_refl {v : Value} (free : v.hasNan = false) : Same v v :=
  same_of_key_eq v v free (m := 0) rfl

end Criteria.Value
