import Criteria.Condition.Construction
import Criteria.Proofs.Outcome

/-!
# What calls have made

What a call that succeeded has made: which condition it returned, which parameters it created for
it, and under which names these are bound. Names are taken one after the other, one for each value.
-/

namespace Criteria

open Build

theorem eq_of_repr_eq {m n : Nat} (h : m.repr = n.repr) : m = n := by
  have digits := congrArg (fun s => Nat.ofDigitChars 10 s.toList 0) h
  simpa using digits

namespace Command

/-- The parameter is bound under the name of a given number. -/
def Names (c : Command) (n : Nat) (p : Parameter) : Prop :=
  p.bindable = true ∧ p.name = c.parameterName n ∧ p.placeholder = c.dialect.placeholder p.name

/-- The parameters are bound under the names from a given number on. -/
def Numbers (c : Command) : Nat → List Parameter → Prop
  | _, [] => True
  | n, p :: rest => c.Names n p ∧ c.Numbers (n + 1) rest

theorem parameterName_injective {c : Command} {m n : Nat}
    (h : c.parameterName m = c.parameterName n) : m = n :=
  eq_of_repr_eq ((String.append_right_inj c.stem).mp h)

theorem numbers_get {c : Command} {n : Nat} {items : List Parameter} (h : c.Numbers n items)
    {p : Parameter} (hp : p ∈ items) :
    ∃ i, i < items.length ∧ items[i]? = some p ∧ c.Names (n + i) p := by
  induction items generalizing n with
  | nil => cases hp
  | cons q items ih =>
    rcases List.mem_cons.mp hp with rfl | hp
    · exact ⟨0, by simp, rfl, h.1⟩
    · obtain ⟨i, bound, found, name⟩ := ih h.2 hp
      refine ⟨i + 1, by simpa using bound, by simpa using found, ?_⟩
      rwa [Nat.add_assoc, Nat.add_comm 1 i] at name

/-- Among parameters that are numbered together a name belongs to one of them. -/
theorem numbers_unique {c : Command} {n : Nat} {items : List Parameter} (h : c.Numbers n items)
    {p q : Parameter} (hp : p ∈ items) (hq : q ∈ items) (same : p.name = q.name) : p = q := by
  obtain ⟨i, -, atP, nameP⟩ := numbers_get h hp
  obtain ⟨j, -, atQ, nameQ⟩ := numbers_get h hq
  have index : n + i = n + j :=
    parameterName_injective (nameP.2.1.symm.trans (same.trans nameQ.2.1))
  have : i = j := by omega
  subst this
  exact Option.some.inj (atP.symm.trans atQ)

theorem filter_bindable_of_numbers {c : Command} {n : Nat} {items : List Parameter}
    (h : c.Numbers n items) : items.filter (·.bindable) = items := by
  rw [List.filter_eq_self]
  intro p hp
  obtain ⟨_, -, -, name⟩ := numbers_get h hp
  exact name.1

/-- So many names of a command, from one of them on. -/
def namesFrom (c : Command) (first count : Nat) : List String :=
  (List.range' first count).map c.parameterName

theorem names_of_numbers {c : Command} {n : Nat} {items : List Parameter}
    (h : c.Numbers n items) :
    (items.filter (·.bindable)).map (·.name) = c.namesFrom n items.length := by
  rw [filter_bindable_of_numbers h]
  induction items generalizing n with
  | nil => rfl
  | cons p items ih =>
    obtain ⟨name, rest⟩ := h
    rw [List.map_cons, ih rest, name.2.1]
    rfl

theorem texts_of_numbers {c : Command} {n : Nat} {items : List Parameter} (h : c.Numbers n items) :
    items.mapM Parameter.text = .ok ((c.namesFrom n items.length).map c.dialect.placeholder) := by
  induction items generalizing n with
  | nil => rfl
  | cons p items ih =>
    obtain ⟨⟨bindable, name, placeholder⟩, rest⟩ := h
    rw [List.mapM_cons, Parameter.text, if_pos bindable, placeholder, name, ih rest]
    rfl

theorem requireColumn_ok {column : Option String} {name : String} {s t : Supply}
    (h : (requireColumn column).run.run s = (.ok name, t)) : column = some name ∧ t = s := by
  cases column with
  | none => cases h
  | some column =>
    by_cases blank : Text.isBlank column = true
    · simp only [requireColumn, blank, if_true] at h
      cases h
    · simp only [requireColumn, blank] at h
      cases h
      exact ⟨rfl, rfl⟩

theorem parameter_ok {c : Command} {column : Option String} {value : Value}
    {type : Option DataType} {p : Parameter} {s t : Supply}
    (h : (c.parameter column value type).run.run s = (.ok p, t)) :
    column = some p.column ∧ p.value = value ∧ c.Names s.next p ∧ t.next = s.next + 1 := by
  unfold parameter at h
  rw [bind_ok_iff] at h
  obtain ⟨name, u, hcolumn, h⟩ := h
  obtain ⟨rfl, rfl⟩ := requireColumn_ok hcolumn
  cases h
  exact ⟨rfl, rfl, ⟨rfl, rfl, rfl⟩, rfl⟩

theorem literal_ok {column : Option String} {value : Value} {type : Option DataType}
    {p : Parameter} {s t : Supply}
    (h : (literal column value type).run.run s = (.ok p, t)) :
    column = some p.column ∧ p.value = value ∧ p.bindable = false ∧ t.next = s.next := by
  unfold literal at h
  rw [bind_ok_iff] at h
  obtain ⟨name, u, hcolumn, h⟩ := h
  obtain ⟨rfl, rfl⟩ := requireColumn_ok hcolumn
  cases h
  exact ⟨rfl, rfl, rfl, rfl⟩

theorem expression_ok {column expr : Option String} {p : Parameter} {s t : Supply}
    (h : (expression column expr).run.run s = (.ok p, t)) :
    column = some p.column ∧ p.value = .text (expr.getD "") ∧ p.bindable = false ∧
      t.next = s.next := by
  unfold expression at h
  rw [bind_ok_iff] at h
  obtain ⟨name, u, hcolumn, h⟩ := h
  obtain ⟨rfl, rfl⟩ := requireColumn_ok hcolumn
  by_cases blank : Text.isBlank (expr.getD "") = true
  · simp only [blank, if_true] at h
    cases h
  · simp only [blank] at h
    exact literal_ok h

/-- Values that are bound one after the other are numbered one after the other. -/
theorem mapM_parameter_ok {c : Command} {column : Option String} {values : List Value}
    {type : Option DataType} {items : List Parameter} {s t : Supply}
    (h : (values.mapM fun v => c.parameter column v type).run.run s = (.ok items, t)) :
    (∀ p ∈ items, some p.column = column) ∧ items.map (·.value) = values ∧
      c.Numbers s.next items ∧ t.next = s.next + items.length := by
  induction values generalizing s items with
  | nil =>
    cases h
    exact ⟨nofun, rfl, trivial, rfl⟩
  | cons v values ih =>
    rw [List.mapM_cons, bind_ok_iff] at h
    obtain ⟨p, u, hp, h⟩ := h
    rw [bind_ok_iff] at h
    obtain ⟨rest, w, hrest, h⟩ := h
    cases h
    obtain ⟨hcolumn, hvalue, hname, hu⟩ := parameter_ok hp
    obtain ⟨columns, hvalues, names, ht⟩ := ih hrest
    refine ⟨?_, by simp [hvalue, hvalues], ⟨hname, hu ▸ names⟩, ?_⟩
    · intro q hq
      rcases List.mem_cons.mp hq with rfl | hq
      · exact hcolumn.symm
      · exact columns q hq
    · rw [ht, hu, List.length_cons]
      omega

end Command

namespace Condition

theorem ofParameters_ok {table : OperatorTable} {c : Command} {operator : String}
    {first : Parameter} {second : Option Parameter} {d : Condition}
    (h : ofParameters table c operator first second = .ok d) :
    ∃ op, table.get operator = .ok op ∧
      ((if op.arity = 0 then 0 else 1) + (if second.isSome then 1 else 0) : Int) = op.arity ∧
      d = comparison c op.name first second := by
  unfold ofParameters at h
  rw [bind_eq_ok_iff] at h
  obtain ⟨op, hop, h⟩ := h
  by_cases count :
      ((if op.arity = 0 then 0 else 1) + (if second.isSome then 1 else 0) : Int) = op.arity
  · simp only [count, ne_eq, not_true_eq_false, if_false] at h
    cases h
    exact ⟨op, hop, count, rfl⟩
  · simp only [count, ne_eq, not_false_eq_true, if_true] at h
    cases h

/-- The parameters of a comparison, when its values were bound from a given number on. -/
def Bound (c : Command) (n : Nat) (values : List Value) (first : Parameter)
    (second : Option Parameter) : Prop :=
  (values = [] ∧ first.bindable = false ∧ second = none) ∨
    (values = (first :: second.toList).map (·.value) ∧ c.Numbers n (first :: second.toList))

theorem compare_ok {table : OperatorTable} {c : Command} {column : Option String}
    {operator : String} {values : List Value} {type : Option DataType} {d : Condition}
    {s t : Supply} (h : (compare table c column operator values type).run.run s = (.ok d, t)) :
    ∃ op first second, table.get operator = .ok op ∧ (values.length : Int) = op.arity ∧
      ofParameters table c op.name first second = .ok d ∧ column = some first.column ∧
      Bound c s.next values first second ∧ t.next = s.next + values.length := by
  unfold compare at h
  rw [bind_ok_iff] at h
  obtain ⟨op, u, found, h⟩ := h
  obtain ⟨hop, rfl⟩ := lift_ok_iff.mp found
  by_cases count : (values.length : Int) = op.arity
  · simp only [count, ne_eq, not_true_eq_false, if_false] at h
    by_cases bare : op.arity = 0
    · rw [if_pos bare, bind_ok_iff] at h
      obtain ⟨first, w, hfirst, h⟩ := h
      obtain ⟨made, rfl⟩ := lift_ok_iff.mp h
      obtain ⟨hcolumn, -, hbindable, ht⟩ := Command.literal_ok hfirst
      have nothing : values = [] := List.eq_nil_of_length_eq_zero (by omega)
      refine ⟨op, first, none, hop, count, made, hcolumn, Or.inl ⟨nothing, hbindable, rfl⟩, ?_⟩
      rw [ht, nothing]
      rfl
    · rw [if_neg bare, bind_ok_iff] at h
      obtain ⟨items, w, hitems, h⟩ := h
      obtain ⟨columns, hvalues, names, ht⟩ := Command.mapM_parameter_ok hitems
      have length : items.length = values.length := by rw [← hvalues, List.length_map]
      match items, h with
      | [first], h =>
        obtain ⟨made, rfl⟩ := lift_ok_iff.mp h
        exact ⟨op, first, none, hop, count, made, (columns first (by simp)).symm,
          Or.inr ⟨hvalues.symm, names⟩, by rw [ht, length]⟩
      | [first, second], h =>
        obtain ⟨made, rfl⟩ := lift_ok_iff.mp h
        exact ⟨op, first, some second, hop, count, made, (columns first (by simp)).symm,
          Or.inr ⟨hvalues.symm, names⟩, by rw [ht, length]⟩
      | [], h => cases h
      | _ :: _ :: _ :: _, h => cases h
  · simp only [count, ne_eq, not_false_eq_true, if_true] at h
    cases h

theorem compareExpression_ok {table : OperatorTable} {c : Command} {column : Option String}
    {operator : String} {expr : Option String} {d : Condition} {s t : Supply}
    (h : (compareExpression table c column operator expr).run.run s = (.ok d, t)) :
    ∃ op first, table.get operator = .ok op ∧ op.arity = 1 ∧
      ofParameters table c op.name first none = .ok d ∧ column = some first.column ∧
      first.value = .text (expr.getD "") ∧ first.bindable = false ∧ t.next = s.next := by
  unfold compareExpression at h
  rw [bind_ok_iff] at h
  obtain ⟨op, u, found, h⟩ := h
  obtain ⟨hop, rfl⟩ := lift_ok_iff.mp found
  by_cases count : op.arity = 1
  · simp only [count, ne_eq, not_true_eq_false, if_false] at h
    rw [bind_ok_iff] at h
    obtain ⟨first, w, hfirst, h⟩ := h
    obtain ⟨made, rfl⟩ := lift_ok_iff.mp h
    obtain ⟨hcolumn, hvalue, hbindable, ht⟩ := Command.expression_ok hfirst
    exact ⟨op, first, hop, count, made, hcolumn, hvalue, hbindable, ht⟩
  · simp only [count, ne_eq, not_false_eq_true, if_true] at h
    cases h

theorem compareColumn_ok {table : OperatorTable} {c : Command} {column : Option String}
    {operator : String} {otherColumn otherTable : Option String} {d : Condition} {s t : Supply}
    (h : (compareColumn table c column operator otherColumn otherTable).run.run s = (.ok d, t)) :
    ∃ expr, (compareExpression table c column operator (some expr)).run.run s = (.ok d, t) := by
  unfold compareColumn at h
  by_cases missing : otherColumn.getD "" = ""
  · simp only [missing, if_true] at h
    cases h
  · simp only [missing, if_false] at h
    exact ⟨_, h⟩

theorem inList_ok {c : Command} {column : Option String} {values : List Value}
    {type : Option DataType} {negated : Bool} {d : Condition} {s t : Supply}
    (h : (inList c column values type negated).run.run s = (.ok d, t)) :
    ∃ items, d = membership c column items negated ∧ (∀ p ∈ items, some p.column = column) ∧
      items.map (·.value) = values ∧ c.Numbers s.next items ∧ t.next = s.next + items.length := by
  unfold inList at h
  rw [bind_ok_iff] at h
  obtain ⟨items, u, hitems, h⟩ := h
  obtain ⟨made, rfl⟩ := lift_ok_iff.mp h
  obtain ⟨-, rfl⟩ := ofItems_eq_ok_iff.mp made
  exact ⟨items, rfl, Command.mapM_parameter_ok hitems⟩

theorem inValues_ok {c : Command} {column : Option String} {values : Value}
    {type : Option DataType} {negated : Bool} {d : Condition} {s t : Supply}
    (h : (inValues c column values type negated).run.run s = (.ok d, t)) :
    ∃ list, elements column values = .ok list ∧
      (inList c column list type negated).run.run s = (.ok d, t) := by
  unfold inValues at h
  rw [bind_ok_iff] at h
  obtain ⟨list, u, read, h⟩ := h
  obtain ⟨hlist, rfl⟩ := lift_ok_iff.mp read
  exact ⟨list, hlist, h⟩

theorem inDelimited_ok {c : Command} {column text : Option String} {type : DataType}
    {separator : String} {negated : Bool} {d : Condition} {s t : Supply}
    (h : (inDelimited c column text type separator negated).run.run s = (.ok d, t)) :
    ∃ list, (tokens separator (text.getD "")).mapM (readToken column type) = .ok list ∧
      (inList c column list (some type) negated).run.run s = (.ok d, t) := by
  unfold inDelimited at h
  by_cases empty : separator = ""
  · simp only [empty, if_true] at h
    cases h
  · simp only [empty, if_false] at h
    rw [bind_ok_iff] at h
    obtain ⟨list, u, read, h⟩ := h
    rw [run_mapM_lift] at read
    obtain ⟨hlist, rfl⟩ := Prod.mk.inj read
    exact ⟨list, hlist, h⟩

theorem ofGroup_ok {own : Command} {connective : Connective} {conditions : List Condition}
    {d : Condition} (h : ofGroup own connective conditions = .ok d) :
    d = group own connective conditions ∧ ∀ e ∈ conditions, e.command = own := by
  unfold ofGroup at h
  rw [bind_eq_ok_iff] at h
  obtain ⟨⟨⟩, required, h⟩ := h
  cases h
  exact ⟨rfl, requireCommand_eq_ok_iff.mp required⟩

theorem join_ok {connective : Connective} {conditions : List Condition} {c : Option Command}
    {d : Condition} (h : join connective conditions c = .ok d) :
    d = group d.command connective conditions ∧ ∀ e ∈ conditions, e.command = d.command := by
  match c, conditions, h with
  | some own, _, h =>
    obtain ⟨rfl, own⟩ := ofGroup_ok h
    exact ⟨rfl, own⟩
  | none, first :: rest, h =>
    obtain ⟨rfl, own⟩ := ofGroup_ok h
    exact ⟨rfl, own⟩

theorem ofNegation_ok {own : Command} {inner d : Condition} (h : ofNegation own inner = .ok d) :
    d = negation own inner ∧ inner.command = own := by
  unfold ofNegation at h
  rw [bind_eq_ok_iff] at h
  obtain ⟨⟨⟩, required, h⟩ := h
  cases h
  exact ⟨rfl, requireCommand_eq_ok_iff.mp required inner List.mem_cons_self⟩

theorem negate_ok {condition : Option Condition} {d : Condition} (h : negate condition = .ok d) :
    ∃ inner, condition = some inner ∧ d = negation inner.command inner := by
  match condition, h with
  | some inner, h => exact ⟨inner, rfl, (ofNegation_ok h).1⟩

theorem inParameters_ok {c : Command} {column : Option String} {items : Option (List Parameter)}
    {negated : Bool} {d : Condition} (h : inParameters c column items negated = .ok d) :
    ∃ list own, items = some list ∧ d = membership c (some own) list negated ∧
      ∀ p ∈ list, p.column = own := by
  cases items with
  | none => cases h
  | some list =>
    obtain ⟨columns, rfl⟩ := ofItems_eq_ok_iff.mp h
    exact ⟨list, _, rfl, rfl, fun p hp => Option.some.inj (columns p hp)⟩

end Condition
end Criteria
