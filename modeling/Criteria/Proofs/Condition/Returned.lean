import Criteria.Proofs.Condition.Constructed

/-!
# What calls return

The ways in which a call comes to a condition: it compares, it makes a membership, or it joins or
negates what it is given. What a call writes into a condition of its own accord, rather than binding
it, is null or a text.
-/

namespace Criteria

open Build

/-- What is written into a statement is null, or a text that reads as itself. -/
def Parameter.IsVerbatim (p : Parameter) : Prop :=
  p.bindable = false → p.value = .null ∨ ∃ s, p.value = .text s

/-- What is written as it is has no numbers in it. -/
theorem Parameter.isWritable_of_isVerbatim {p : Parameter} (verbatim : p.IsVerbatim) :
    p.IsWritable := by
  intro inlined n mem
  rcases verbatim inlined with null | ⟨s, text⟩
  · rw [null] at mem
    cases mem
  · rw [text] at mem
    cases mem

/-- How a condition that a call returns has been put together. -/
inductive Call.Returns (operators : OperatorTable) (c : Command) (call : Call) : Condition → Prop
  | comparison {name : String} {first : Parameter} {second : Option Parameter} {d : Condition}
      (made : Condition.ofParameters operators c name first second = .ok d)
      (verbatim : call.creates = true → ∀ p ∈ first :: second.toList, p.IsVerbatim) :
      Returns operators c call d
  | membership {own : Command} {column : Option String} {items : List Parameter} {negated : Bool}
      (verbatim : call.creates = true → ∀ p ∈ items, p.IsVerbatim) :
      Returns operators c call (.membership own column items negated)
  | group {own : Command} {connective : Connective} :
      Returns operators c call (.group own connective call.parts)
  | negation {own : Command} {inner : Condition} (part : inner ∈ call.parts) :
      Returns operators c call (.negation own inner)

namespace Condition

theorem isVerbatim_of_numbers {c : Command} {n : Nat} {items : List Parameter}
    (numbers : c.Numbers n items) : ∀ p ∈ items, p.IsVerbatim := by
  intro p hp inlined
  obtain ⟨_, -, -, bindable, -⟩ := Command.numbers_get numbers hp
  cases bindable.symm.trans inlined

/-- A comparison without values holds null in its only parameter, and others bind all they hold. -/
theorem compare_verbatim {table : OperatorTable} {c : Command} {column : Option String}
    {operator : String} {values : List Value} {type : Option DataType} {d : Condition}
    {s t : Supply} (h : (compare table c column operator values type).run.run s = (.ok d, t)) :
    ∃ name first second, ofParameters table c name first second = .ok d ∧
      ∀ p ∈ first :: second.toList, p.IsVerbatim := by
  obtain ⟨op, first, second, found, count, made, -, bound, -⟩ := compare_ok h
  rcases bound with ⟨rfl, -, rfl⟩ | ⟨-, numbers⟩
  · unfold compare at h
    rw [bind_ok_iff] at h
    obtain ⟨op', u, found', h⟩ := h
    obtain rfl : op = op' := Except.ok.inj (found.symm.trans (lift_ok_iff.mp found').1)
    have bare : op.arity = 0 := count.symm
    simp only [count, ne_eq, not_true_eq_false, if_false, if_pos bare, bind_ok_iff] at h
    obtain ⟨written, v, hwritten, h⟩ := h
    refine ⟨op.name, written, none, (lift_ok_iff.mp h).1, fun p hp _ => ?_⟩
    obtain rfl := List.mem_singleton.mp hp
    exact .inl (Command.literal_ok hwritten).2.1
  · exact ⟨op.name, first, second, made, isVerbatim_of_numbers numbers⟩

theorem compareExpression_verbatim {table : OperatorTable} {c : Command} {column : Option String}
    {operator : String} {expr : Option String} {d : Condition} {s t : Supply}
    (h : (compareExpression table c column operator expr).run.run s = (.ok d, t)) :
    ∃ name first, ofParameters table c name first none = .ok d ∧
      ∀ p ∈ first :: (none : Option Parameter).toList, p.IsVerbatim := by
  obtain ⟨op, first, -, -, made, -, value, -⟩ := compareExpression_ok h
  refine ⟨op.name, first, made, fun p hp _ => ?_⟩
  obtain rfl := List.mem_singleton.mp hp
  exact .inr ⟨_, value⟩

end Condition

theorem Call.returns_of_run {operators : OperatorTable} {c : Command} {call : Call} {d : Condition}
    {s t : Supply} (h : (call.run operators c).run.run s = (.ok (.condition d), t)) :
    call.Returns operators c d := by
  have made := @Answer.condition_ok
  cases call with
  | nextName =>
    obtain ⟨_, -, other⟩ := map_ok_iff.mp h
    cases other
  | parameter column value type =>
    obtain ⟨_, -, other⟩ := map_ok_iff.mp h
    cases other
  | literal column value type =>
    obtain ⟨_, -, other⟩ := map_ok_iff.mp h
    cases other
  | expression column expr =>
    obtain ⟨_, -, other⟩ := map_ok_iff.mp h
    cases other
  | compare column operator values type =>
    obtain ⟨name, first, second, hd, verbatim⟩ := Condition.compare_verbatim (made h)
    exact .comparison hd fun _ => verbatim
  | compareColumn column operator otherColumn otherTable =>
    obtain ⟨expr, hd⟩ := Condition.compareColumn_ok (made h)
    obtain ⟨name, first, hd, verbatim⟩ := Condition.compareExpression_verbatim hd
    exact .comparison hd fun _ => verbatim
  | compareExpression column operator expr =>
    obtain ⟨name, first, hd, verbatim⟩ := Condition.compareExpression_verbatim (made h)
    exact .comparison hd fun _ => verbatim
  | inValues column values type negated =>
    obtain ⟨list, -, hd⟩ := Condition.inValues_ok (made h)
    obtain ⟨items, rfl, -, -, numbers, -⟩ := Condition.inList_ok hd
    exact .membership fun _ => Condition.isVerbatim_of_numbers numbers
  | inDelimited column text type separator negated =>
    obtain ⟨list, -, hd⟩ := Condition.inDelimited_ok (made h)
    obtain ⟨items, rfl, -, -, numbers, -⟩ := Condition.inList_ok hd
    exact .membership fun _ => Condition.isVerbatim_of_numbers numbers
  | inParameters column items negated =>
    obtain ⟨list, own, -, rfl, -⟩ := Condition.inParameters_ok (lift_ok_iff.mp (made h)).1
    exact .membership nofun
  | ofParameters operator first second => exact .comparison (lift_ok_iff.mp (made h)).1 nofun
  | ofItems column items negated =>
    obtain ⟨-, rfl⟩ := Condition.ofItems_eq_ok_iff.mp (lift_ok_iff.mp (made h)).1
    exact .membership nofun
  | join connective conditions onSelf =>
    obtain ⟨shape, -⟩ := Condition.join_ok (lift_ok_iff.mp (made h)).1
    rw [shape]
    exact .group
  | ofGroup connective conditions =>
    obtain ⟨rfl, -⟩ := Condition.ofGroup_ok (lift_ok_iff.mp (made h)).1
    exact .group
  | negate condition =>
    obtain ⟨inner, rfl, rfl⟩ := Condition.negate_ok (lift_ok_iff.mp (made h)).1
    exact .negation (List.mem_singleton_self inner)
  | ofNegation condition =>
    obtain ⟨rfl, -⟩ := Condition.ofNegation_ok (lift_ok_iff.mp (made h)).1
    exact .negation (List.mem_singleton_self condition)

/-- What a call creates itself is bound or reads as itself. -/
theorem Call.isVerbatim_of_returns {operators : OperatorTable} {c : Command} {call : Call}
    {d : Condition} (h : call.Returns operators c d) (creates : call.creates = true) :
    ∀ p ∈ d.held, p.IsVerbatim := by
  cases h with
  | comparison made verbatim =>
    obtain ⟨op, -, -, rfl⟩ := Condition.ofParameters_ok made
    exact verbatim creates
  | membership verbatim => exact verbatim creates
  | group => exact fun p hp => absurd hp List.not_mem_nil
  | negation => exact fun p hp => absurd hp List.not_mem_nil

theorem Call.parts_of_makesLeaf {s : Session} {c : Command} {before now : OperatorTable}
    {call : Call} (leaf : call.MakesLeaf s c before now) : call.parts = [] := by
  cases call with
  | join => exact leaf.elim
  | ofGroup => exact leaf.elim
  | negate => exact leaf.elim
  | ofNegation => exact leaf.elim
  | _ => rfl

/-- What stands in a condition that has been built on a command can be written, unless it was given
to a call as it is. -/
theorem Session.isWritable_or_given {s : Session} (h : s.Consistent) {operators : OperatorTable}
    {c : Command} {d : Condition} (built : s.Built operators c d) :
    ∀ p ∈ d.leaves, p.IsWritable ∨ ∃ e ∈ s.events, p ∈ e.call.given := by
  induction built with
  | @leaf e d called own leaf made =>
    intro p hp
    have ran := h.ran e called
    rw [made] at ran
    rcases Call.leaves_of_run ran hp with ⟨-, ⟨creates, held⟩ | given⟩ | ⟨part, hpart, -⟩
    · have verbatim := Call.isVerbatim_of_returns (Call.returns_of_run ran) creates p held
      exact .inl (Parameter.isWritable_of_isVerbatim verbatim)
    · exact .inr ⟨e, called, given⟩
    · rw [Call.parts_of_makesLeaf leaf] at hpart
      cases hpart
  | join each made own ih =>
    obtain ⟨shape, -⟩ := Condition.join_ok made
    rw [shape]
    intro p hp
    obtain ⟨d, hd, hp⟩ := Condition.mem_leavesOfAll.mp hp
    exact ih d hd p hp
  | negate built made ih =>
    obtain ⟨inner, same, shape⟩ := Condition.negate_ok made
    cases same
    rw [shape]
    exact ih

end Criteria
