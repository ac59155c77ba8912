import Criteria.Condition
import Criteria.Proofs.Outcome

/-!
# What a comparison writes

A comparison writes the parameters that its operator takes, from the left. It succeeds with none of
them missing and each of them written, and gives just these as its parameters.
-/

namespace Criteria.Condition

variable {table : OperatorTable} {shown : Parameter → Except Error String} {operator : String}
  {op : Operator} {first : Parameter} {second : Option Parameter} {values : List Parameter}
  {texts : List String} {text : String}

theorem compared_of_zero (arity : op.arity = 0) : compared op first second = [] := if_pos arity

theorem compared_of_one (arity : op.arity = 1) : compared op first second = [some first] := by
  rw [compared, if_neg (by omega), if_pos arity]

theorem compared_of_two (arity : op.arity = 2) :
    compared op first second = [some first, second] := by
  rw [compared, if_neg (by omega), if_neg (by omega)]

theorem eq_of_mem_compared {p : Option Parameter} (h : p ∈ compared op first second) :
    p = some first ∨ p = second := by
  rw [compared] at h
  by_cases bare : op.arity = 0
  · rw [if_pos bare] at h
    cases h
  · rw [if_neg bare] at h
    by_cases single : op.arity = 1
    · rw [if_pos single] at h
      exact .inl (List.mem_singleton.mp h)
    · rw [if_neg single] at h
      simpa using h

theorem mapM_shown (values : List Parameter) :
    ((values.map some).mapM fun p => required p >>= shown) = values.mapM shown := by
  rw [List.mapM_map]
  rfl

theorem mapM_required (given : List Parameter) : (given.map some).mapM required = .ok given := by
  rw [List.mapM_map]
  exact List.mapM_pure.trans (congrArg Except.ok (List.map_id given))

/-- Where something is made of all that is given, nothing of it is missing. -/
theorem eq_map_some_of_shown {α : Type} {shown : Parameter → Except Error α} {made : List α}
    {given : List (Option Parameter)}
    (h : (given.mapM fun p => required p >>= shown) = .ok made) :
    ∃ values : List Parameter, given = values.map some ∧ values.mapM shown = .ok made := by
  have each := mapM_eq_ok_iff.mp h
  clear h
  induction each with
  | nil => exact ⟨[], rfl, rfl⟩
  | @cons p text given made first _ ih =>
    obtain ⟨q, found, written⟩ := bind_eq_ok_iff.mp first
    obtain ⟨values, rfl, rest⟩ := ih
    cases p with
    | none => cases found
    | some p =>
      cases found
      refine ⟨q :: values, rfl, ?_⟩
      rw [List.mapM_cons, written, rest]
      rfl

/-- The same where it is only asked for. -/
theorem eq_map_some_of_required {given : List (Option Parameter)}
    (h : given.mapM required = .ok values) : given = values.map some := by
  have kept : (given.mapM fun p => required p >>= .ok) = given.mapM required :=
    congrArg given.mapM (funext fun p => bind_pure (required p))
  obtain ⟨all, rfl, -⟩ := eq_map_some_of_shown (kept.trans h)
  rw [mapM_required] at h
  rw [Except.ok.inj h]

theorem comparands_eq_ok_iff :
    comparands op first second = .ok values ↔ compared op first second = values.map some := by
  constructor
  · exact eq_map_some_of_required
  · intro h
    rw [comparands, h, mapM_required]

/-- What a comparison writes when none of its parameters is missing. -/
theorem comparisonText_of_comparands (found : table.get operator = .ok op)
    (taken : comparands op first second = .ok values) :
    comparisonText table shown operator first second = do
      let texts ← values.mapM shown
      let inner ← op.render first.column texts
      return "(" ++ inner ++ ")" := by
  rw [comparisonText, found, ok_bind, comparands_eq_ok_iff.mp taken, mapM_shown]

/-- Everything that a comparison with a text has done. -/
theorem comparisonText_ok (h : comparisonText table shown operator first second = .ok text) :
    ∃ op values texts inner, table.get operator = .ok op ∧
      comparands op first second = .ok values ∧ values.mapM shown = .ok texts ∧
      op.render first.column texts = .ok inner ∧ text = "(" ++ inner ++ ")" := by
  simp only [comparisonText, bind_eq_ok_iff] at h
  obtain ⟨op, found, texts, shown, inner, rendered, h⟩ := h
  obtain ⟨values, all, written⟩ := eq_map_some_of_shown shown
  exact ⟨op, values, texts, inner, found, comparands_eq_ok_iff.mpr all, written, rendered,
    (Except.ok.inj h).symm⟩

theorem membershipText_eq_ok_iff {column : Option String} {items : List Parameter}
    {negated : Bool} :
    membershipText shown column items negated = .ok text ↔
      ∃ texts, items.mapM shown = .ok texts ∧ text = listText column texts negated := by
  rw [membershipText, bind_eq_ok_iff]
  exact exists_congr fun texts => and_congr_right fun _ =>
    ⟨fun h => (Except.ok.inj h).symm, fun h => congrArg Except.ok h.symm⟩

theorem membershipText_empty_iff {column : Option String} {items : List Parameter}
    {negated : Bool} (h : membershipText shown column items negated = .ok text) :
    text = "" ↔ items = [] := by
  obtain ⟨texts, written, rfl⟩ := membershipText_eq_ok_iff.mp h
  rw [listText_eq_empty_iff, ← List.length_eq_zero_iff, ← List.length_eq_zero_iff,
    length_of_mapM_ok written]

end Criteria.Condition
