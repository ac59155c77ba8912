import Criteria.Item
import Criteria.Proofs.Condition.Constructed
import Criteria.Proofs.Value.Same

/-!
# Objects that can be compared

Comparing comes to an answer for all objects without values that are not numbers: only a signaling
one may leave it without.
-/

namespace Criteria

namespace Comparison

variable {α : Type}

theorem isSome_andThen {first rest : Comparison} (h : first.isSome = true)
    (h' : rest.isSome = true) : (first.andThen rest).isSome = true := by
  unfold andThen
  split
  · exact h'
  · exact h

theorem isSome_options {compared : α → α → Comparison} {x y : Option α}
    (h : ∀ a ∈ x, ∀ b ∈ y, (compared a b).isSome = true) : (options compared x y).isSome = true := by
  cases x with
  | none => cases y <;> rfl
  | some a =>
    cases y with
    | none => rfl
    | some b => exact h a rfl b rfl

theorem isSome_lists {compared : α → α → Comparison} {as bs : List α}
    (h : ∀ a ∈ as, ∀ b ∈ bs, (compared a b).isSome = true) : (lists compared as bs).isSome = true := by
  induction as generalizing bs with
  | nil => cases bs <;> rfl
  | cons a as ih =>
    cases bs with
    | nil => rfl
    | cons b bs =>
      refine isSome_andThen (h a List.mem_cons_self b List.mem_cons_self) (ih fun a ha b hb => ?_)
      exact h a (List.mem_cons_of_mem _ ha) b (List.mem_cons_of_mem _ hb)

end Comparison

namespace Value

theorem not_isSignaling_of_key {v : Value} (free : v.hasNan = false) {origin : Nat} {a : Atom}
    (h : v.key origin = .leaf a) : a.isSignaling = false := by
  cases a with
  | nan signaling origin => cases free.symm.trans (readsAs_of_key h)
  | _ => rfl

mutual

theorem isSome_compared (v w : Value) (freeV : v.hasNan = false) (freeW : w.hasNan = false)
    (m n : Nat) : (Key.compared (v.key m) (w.key n)).isSome = true := by
  cases left : v.key m with
  | leaf a =>
    cases right : w.key n with
    | leaf b =>
      have quietA := not_isSignaling_of_key freeV left
      have quietB := not_isSignaling_of_key freeW right
      by_cases same : a = b <;>
        simp [Key.compared, Tree.compared, Atom.compared, same, quietA, quietB]
    | node count children => rfl
  | node count children =>
    cases right : w.key n with
    | leaf b => rfl
    | node count' children' =>
      cases v with
      | list items =>
        cases w with
        | list items' =>
          cases left
          cases right
          exact Comparison.isSome_andThen rfl (isSome_comparedList items items' freeV freeW m n)
        | _ => simp [key] at right
      | _ => simp [key] at left

theorem isSome_comparedList (items items' : List Value) (free : anyNan items = false)
    (free' : anyNan items' = false) (m n : Nat) :
    (Tree.comparedList Atom.compared (keys m items) (keys n items')).isSome = true := by
  cases items with
  | nil => cases items' <;> rfl
  | cons v rest =>
    cases items' with
    | nil => rfl
    | cons w rest' =>
      obtain ⟨own, free⟩ := Bool.or_eq_false_iff.mp free
      obtain ⟨own', free'⟩ := Bool.or_eq_false_iff.mp free'
      exact Comparison.isSome_andThen (isSome_compared v w own own' m n)
        (isSome_comparedList rest rest' free free' m n)

end

end Value

namespace Parameter

/-- The value is a number if it is to be one. -/
def NanFree (p : Parameter) : Prop := p.value.hasNan = false

theorem isSome_compared {p q : Parameter} (freeP : p.NanFree) (freeQ : q.NanFree) :
    (p.key.compared q.key).isSome = true :=
  Comparison.isSome_andThen rfl
    (Comparison.isSome_andThen (Value.isSome_compared _ _ freeP freeQ _ _) rfl)

end Parameter

namespace Condition

def NanFree (d : Condition) : Prop := ∀ p ∈ d.leaves, p.NanFree

variable {first first' : Parameter} {second second' : Option Parameter}
  {items items' : List Parameter}

theorem isSome_comparison {operator operator' : String}
    (free : ∀ p ∈ first :: second.toList, p.NanFree)
    (free' : ∀ p ∈ first' :: second'.toList, p.NanFree) :
    (Leaf.compared (.comparison operator first.key (second.map (·.key)))
      (.comparison operator' first'.key (second'.map (·.key)))).isSome = true := by
  obtain ⟨own, others⟩ := List.forall_mem_cons.mp free
  obtain ⟨own', others'⟩ := List.forall_mem_cons.mp free'
  refine Comparison.isSome_andThen rfl (Comparison.isSome_andThen
    (Parameter.isSome_compared own own') (Comparison.isSome_options fun a ha b hb => ?_))
  obtain ⟨p, hp, rfl⟩ := Option.mem_map.mp ha
  obtain ⟨q, hq, rfl⟩ := Option.mem_map.mp hb
  exact Parameter.isSome_compared (others p (by simpa using hp)) (others' q (by simpa using hq))

theorem isSome_membership {column column' : Option String} {negated negated' : Bool}
    (free : ∀ p ∈ items, p.NanFree) (free' : ∀ p ∈ items', p.NanFree) :
    (Leaf.compared (.membership column (items.map (·.key)) negated)
      (.membership column' (items'.map (·.key)) negated')).isSome = true := by
  refine Comparison.isSome_andThen rfl (Comparison.isSome_andThen
    (Comparison.isSome_lists fun a ha b hb => ?_) rfl)
  obtain ⟨p, hp, rfl⟩ := List.mem_map.mp ha
  obtain ⟨q, hq, rfl⟩ := List.mem_map.mp hb
  exact Parameter.isSome_compared (free p hp) (free' q hq)

mutual

theorem isSome_compared (d e : Condition) (freeD : d.NanFree) (freeE : e.NanFree) :
    (d.shape.compared e.shape).isSome = true := by
  cases d with
  | comparison c operator first second =>
    cases e with
    | comparison => exact isSome_comparison freeD freeE
    | _ => rfl
  | membership c column items negated =>
    cases e with
    | membership => exact isSome_membership freeD freeE
    | _ => rfl
  | group c connective conditions =>
    cases e with
    | group c' connective' conditions' =>
      exact Comparison.isSome_andThen rfl
        (isSome_comparedAll conditions conditions' freeD freeE)
    | _ => rfl
  | negation c condition =>
    cases e with
    | negation c' condition' =>
      have inner : (Tree.compared Leaf.compared condition.shape condition'.shape).isSome = true :=
        isSome_compared condition condition' freeD freeE
      simp only [Shape.compared, shape, Tree.compared, Tree.comparedList]
      exact Comparison.isSome_andThen rfl (Comparison.isSome_andThen inner rfl)
    | _ => rfl

theorem isSome_comparedAll (conditions conditions' : List Condition)
    (free : ∀ p ∈ leavesOfAll conditions, p.NanFree)
    (free' : ∀ p ∈ leavesOfAll conditions', p.NanFree) :
    (Tree.comparedList Leaf.compared (shapes conditions) (shapes conditions')).isSome = true := by
  cases conditions with
  | nil => cases conditions' <;> rfl
  | cons d rest =>
    cases conditions' with
    | nil => rfl
    | cons e rest' =>
      obtain ⟨own, others⟩ := List.forall_mem_append.mp free
      obtain ⟨own', others'⟩ := List.forall_mem_append.mp free'
      exact Comparison.isSome_andThen (isSome_compared d e own own')
        (isSome_comparedAll rest rest' others others')

end

end Condition

/-- The conditions in a statement. -/
def Select.conditions (q : Select) : List Condition := q.filter.toList ++ q.having.toList

theorem Select.isSome_compared {q r : Select} (freeQ : ∀ d ∈ q.conditions, d.NanFree)
    (freeR : ∀ d ∈ r.conditions, d.NanFree) : (q.key.compared r.key).isSome = true := by
  have options : ∀ x y : Option Condition, (∀ d ∈ x, d.NanFree) → (∀ d ∈ y, d.NanFree) →
      (Comparison.options Condition.Shape.compared (x.map (·.shape)) (y.map (·.shape))).isSome =
        true := by
    intro x y freeX freeY
    refine Comparison.isSome_options fun a ha b hb => ?_
    obtain ⟨d, hd, rfl⟩ := Option.mem_map.mp ha
    obtain ⟨e, he, rfl⟩ := Option.mem_map.mp hb
    exact Condition.isSome_compared d e (freeX d hd) (freeY e he)
  have filters := options q.filter r.filter
    (fun d hd => freeQ d (List.mem_append_left _ (Option.mem_toList.mpr hd)))
    (fun d hd => freeR d (List.mem_append_left _ (Option.mem_toList.mpr hd)))
  have havings := options q.having r.having
    (fun d hd => freeQ d (List.mem_append_right _ (Option.mem_toList.mpr hd)))
    (fun d hd => freeR d (List.mem_append_right _ (Option.mem_toList.mpr hd)))
  exact Comparison.isSome_andThen rfl (Comparison.isSome_andThen filters
    (Comparison.isSome_andThen rfl (Comparison.isSome_andThen havings rfl)))

namespace Item

/-- No value in the object is not a number. -/
def NanFree : Item → Prop
  | parameter p => p.NanFree
  | condition d => d.NanFree
  | select q => ∀ d ∈ q.conditions, d.NanFree
  | settings _ => True
  | backend _ => True
  | command _ => True

theorem isSome_compared {a b : Item} (freeA : a.NanFree) (freeB : b.NanFree) :
    (a.key.compared b.key).isSome = true := by
  cases a with
  | parameter p =>
    cases b with
    | parameter q => exact Parameter.isSome_compared freeA freeB
    | _ => rfl
  | condition d =>
    cases b with
    | condition e => exact Condition.isSome_compared d e freeA freeB
    | _ => rfl
  | select q =>
    cases b with
    | select r => exact Select.isSome_compared freeA freeB
    | _ => rfl
  | _ => cases b <;> rfl

/-- Objects without values that are not numbers are equal just if their keys are. -/
theorem equal_of_nanFree {a b : Item} (freeA : a.NanFree) (freeB : b.NanFree) :
    equal a b = .ok (decide (a.key = b.key)) := by
  obtain ⟨r, answer⟩ := Option.isSome_iff_exists.mp (isSome_compared freeA freeB)
  have decided : r = decide (a.key = b.key) := by
    rw [Bool.eq_iff_iff, decide_eq_true_iff, ← ItemKey.compared_eq_true_iff, answer,
      Option.some.injEq]
  rw [equal, answer, decided]

end Item
end Criteria
