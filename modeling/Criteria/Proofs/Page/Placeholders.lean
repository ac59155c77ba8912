import Criteria.Proofs.Compiled
import Criteria.Proofs.Page.Text

/-!
# Placeholders of pages

Every pager writes the body of the query once, and nothing else with placeholders in it. So the
placeholders of a page are those of its two conditions, and what is bound does not depend on which
page it is.
-/

namespace Criteria

open Text Marker
open Parameter (boundNames)

namespace Bindings

/-- Parameters that are not bound can be left out. -/
theorem ofParameters_congr {first second : List Parameter}
    (same : first.filter (·.bindable) = second.filter (·.bindable)) :
    ofParameters first = ofParameters second := by
  rw [ofParameters, ofParameters, same]

end Bindings

namespace Select

/-- The names, the expressions and the inlined texts that a statement is written with. -/
def written (q : Select) : List String :=
  q.table :: q.columns ++ q.groupBy ++ q.orderBy.map (·.expr) ++
    (q.filter.toList ++ q.having.toList).flatMap (·.written)

/-- The parameters of a condition that may be absent. -/
def ownParameters (operators : OperatorTable) : Option Condition → Except Error (List Parameter)
  | none => .ok []
  | some d => do return (← d.parameters operators).getD []

variable {operators : OperatorTable} {m : Marker} {own : Parameter → Prop}

/-- A condition that may be absent, with its text and with the parameters that the statement takes
from it. -/
structure Holds (operators : OperatorTable) (m : Marker) (own : Parameter → Prop)
    (d : Option Condition) (text : String) (parameters taken : List Parameter) : Prop where
  text_eq : conditionText operators d = .ok text
  own_eq : ownParameters operators d = .ok parameters
  taken_eq : conditionParameters operators d = .ok taken
  bound_eq : taken.filter (·.bindable) = parameters.filter (·.bindable)
  yields : m.Yields text (boundNames parameters)
  owned : ∀ p ∈ parameters, own p

theorem holds_of_agrees {d : Option Condition} {text : String}
    (agrees : ∀ c ∈ d, ∀ text, c.text operators = .ok text →
      ∃ ps, c.Agrees operators m own text ps)
    (rendered : conditionText operators d = .ok text) :
    ∃ ps taken, Holds operators m own d text ps taken := by
  cases d with
  | none =>
    cases rendered
    exact ⟨[], [], rfl, rfl, rfl, rfl, yields_empty, nofun⟩
  | some d =>
    obtain ⟨ps, agrees⟩ := agrees d rfl text rendered
    obtain ⟨given, parameters, rfl⟩ := agrees.parameters_eq
    have own : ownParameters operators (some d) = .ok (given.getD []) := by
      simp only [ownParameters, parameters, ok_bind]
      rfl
    by_cases empty : text = ""
    · have unbound : boundNames (given.getD []) = [] :=
        eq_nil_of_yields_empty (empty ▸ agrees.yields)
      refine ⟨_, [], agrees.text_eq, own, ?_, ?_, agrees.yields, agrees.owned⟩
      · simp only [conditionParameters, agrees.text_eq, ok_bind, empty, if_true]
        rfl
      · exact (List.map_eq_nil_iff.mp unbound).symm
    · refine ⟨_, _, agrees.text_eq, own, ?_, rfl, agrees.yields, agrees.owned⟩
      simp only [conditionParameters, agrees.text_eq, ok_bind, empty, if_false, parameters]
      rfl

theorem yields_clause (legible : m.Legible) {keyword text : String} {names : List String}
    (clean : Unmarked keyword) (inner : m.Yields text names) :
    m.Yields (clause keyword text) names := by
  by_cases empty : text = ""
  · simpa [clause, empty] using inner
  · have front : m.Yields (keyword ++ " ") [] :=
      yields_of_unmarked legible (lacks_append clean (by decide))
    simpa [clause, empty] using yields_append front inner

/-- A query that has a body has a text for each of its conditions. -/
theorem conditionTexts_of_body {q : Select} {body : String} (h : q.body operators = .ok body) :
    ∃ filter having, conditionText operators q.filter = .ok filter ∧
      conditionText operators q.having = .ok having := by
  simp only [Select.body, bind_eq_ok_iff] at h
  obtain ⟨filter, filtered, having, grouped, -⟩ := h
  exact ⟨filter, having, filtered, grouped⟩

theorem yields_body (legible : m.Legible) {q : Select} (clean : ∀ t ∈ q.written, Unmarked t)
    {filter having : String} {first second taken taken' : List Parameter}
    (hfilter : Holds operators m own q.filter filter first taken)
    (hhaving : Holds operators m own q.having having second taken') {body : String}
    (written : q.body operators = .ok body) :
    m.Yields body (boundNames first ++ boundNames second) := by
  have table : Unmarked q.table := clean _ (by simp [Select.written])
  have groups : ∀ t ∈ q.groupBy, Unmarked t := fun t ht => clean t (by simp [Select.written, ht])
  have source : m.Yields ("FROM " ++ q.table) [] :=
    yields_of_unmarked legible (lacks_append (by decide) table)
  have grouping : m.Yields
      (if q.groupBy.isEmpty then "" else "GROUP BY " ++ ", ".intercalate q.groupBy) [] := by
    apply yields_of_unmarked legible
    split
    · decide
    · exact lacks_append (by decide) (lacks_intercalate (by decide) groups)
  let parts : Parts := [("FROM " ++ q.table, []), (clause "WHERE" filter, boundNames first),
    (if q.groupBy.isEmpty then "" else "GROUP BY " ++ ", ".intercalate q.groupBy, []),
    (clause "HAVING" having, boundNames second)]
  have each : ∀ p ∈ parts, m.Yields p.1 p.2 := by
    simp only [parts, List.forall_mem_cons]
    exact ⟨source, yields_clause legible (by decide) hfilter.yields, grouping,
      yields_clause legible (by decide) hhaving.yields, nofun⟩
  have names : parts.flatMap (·.2) = boundNames first ++ boundNames second := by simp [parts]
  have shape : q.body operators = .ok (lines (parts.map (·.1))) := by
    simp only [Select.body, hfilter.text_eq, hhaving.text_eq, ok_bind]
    rfl
  rw [Except.ok.inj (written.symm.trans shape), ← names]
  exact yields_lines legible each

theorem unmarked_order {items : List OrderItem} (clean : ∀ o ∈ items, Unmarked o.expr) :
    Unmarked (OrderItem.clause items) := by
  unfold OrderItem.clause
  split
  · decide
  · apply lacks_append (by decide)
    apply lacks_intercalate (by decide)
    intro t ht
    obtain ⟨o, ho, rfl⟩ := List.mem_map.mp ht
    apply lacks_append (clean o ho)
    split <;> decide

theorem expr_mem_of_ordering {q : Select} {reverse : Bool} {ordering : List OrderItem}
    (h : q.ordering reverse = .ok ordering) {o : OrderItem} (ho : o ∈ ordering) :
    o.expr ∈ q.orderBy.map (·.expr) := by
  unfold Select.ordering at h
  split at h
  · split at h
    · cases h
    · cases h
      obtain ⟨item, hitem, rfl⟩ := List.mem_map.mp ho
      exact List.mem_map.mpr ⟨item, hitem, rfl⟩
  · cases h
    exact List.mem_map.mpr ⟨o, ho, rfl⟩

theorem bindings_of_holds {q : Select} {filter having : String}
    {first second taken taken' : List Parameter}
    (hfilter : Holds operators m own q.filter filter first taken)
    (hhaving : Holds operators m own q.having having second taken') :
    q.bindings operators = .ok (.ofParameters (first ++ second)) := by
  have bound : (taken ++ taken').filter (·.bindable) = (first ++ second).filter (·.bindable) := by
    rw [List.filter_append, List.filter_append, hfilter.bound_eq, hhaving.bound_eq]
  rw [← Bindings.ofParameters_congr bound]
  simp only [bindings, parameters, hfilter.taken_eq, hhaving.taken_eq, ok_bind]
  rfl

end Select

namespace Pager

/-- The names that the pagers give to what they add. -/
theorem unmarked_quote {d : Dialect} (builtIn : d ∈ Dialect.builtIn) :
    ∀ name ∈ [rowNumberColumn, "__distinct", "__paged", "__ordered"], Unmarked (d.quote name) := by
  revert d
  decide

theorem unmarked_repr (n : Nat) : Unmarked n.repr := by
  intro c hc
  have digit := Template.isDigit_of_mem_repr hc
  simp only [List.mem_cons, List.not_mem_nil, or_false]
  rintro (rfl | rfl | rfl) <;> cases digit

theorem unmarked_head {q : Select} (clean : ∀ t ∈ q.columns, Unmarked t) :
    Unmarked q.keyword ∧ Unmarked q.selectList ∧ Unmarked q.head := by
  have keyword : Unmarked q.keyword := by
    unfold Select.keyword
    split <;> decide
  have columns : Unmarked q.selectList := lacks_intercalate (by decide) clean
  exact ⟨keyword, columns, lacks_append (lacks_append keyword (by decide)) columns⟩

theorem yields_numbered {d : Dialect} (builtIn : d ∈ Dialect.builtIn) {q : Select}
    {body order : String} {names : List String} (clean : ∀ t ∈ q.columns, Unmarked t)
    (ordered : Unmarked order) (inner : d.marker.Yields body names) :
    d.marker.Yields (numbered q d body order) names := by
  have legible := legible_of_builtIn builtIn
  have quoted := unmarked_quote builtIn
  simp only [List.forall_mem_cons] at quoted
  obtain ⟨rowNumber, distinct, -⟩ := quoted
  obtain ⟨-, columns, head⟩ := unmarked_head clean
  have order : Unmarked (if order = "" then "ORDER BY (SELECT 0)" else order) := by
    split
    · decide
    · exact ordered
  have numbering : Unmarked (numbering d _) :=
    lacks_append (lacks_append (lacks_append (by decide) order) (by decide)) rowNumber
  by_cases unique : q.distinct = true
  · have base := yields_lines_around legible [q.head] [] (by simp [head]) inner
    rw [numbered, if_pos unique]
    apply yields_lines_around legible [_] [_] _ base
    simp only [List.forall_mem_append, List.forall_mem_cons, lacks_append_iff, distinct,
      numbering]
    decide
  · rw [numbered, if_neg unique]
    apply yields_lines_around legible [_] [] _ inner
    simp only [List.forall_mem_append, List.forall_mem_cons, lacks_append_iff, columns,
      numbering]
    decide

theorem yields_pageText {d : Dialect} (builtIn : d ∈ Dialect.builtIn) (pager : Pager) {q : Select}
    {offset limit : Nat} {body order : String} {names : List String}
    (clean : ∀ t ∈ q.columns, Unmarked t) (ordered : Unmarked order)
    (inner : d.marker.Yields body names) :
    d.marker.Yields (pager.pageText q d offset limit body order) names := by
  have legible := legible_of_builtIn builtIn
  have quoted := unmarked_quote builtIn
  simp only [List.forall_mem_cons] at quoted
  obtain ⟨rowNumber, -, paged, outer, -⟩ := quoted
  obtain ⟨keyword, columns, head⟩ := unmarked_head clean
  cases pager with
  | limitOffset =>
    have skipped : Unmarked (if offset = 0 then "" else "OFFSET " ++ offset.repr) := by
      split
      · decide
      · exact lacks_append (by decide) (unmarked_repr offset)
    apply yields_lines_around legible [q.head] [order, _, _] _ inner
    simp only [List.forall_mem_append, List.forall_mem_cons, lacks_append_iff, unmarked_repr,
      head, ordered, skipped]
    decide
  | offsetFetch =>
    by_cases front : offset = 0
    · rw [pageText, if_pos front]
      apply yields_lines_around legible [_] [order] _ inner
      simp only [List.forall_mem_append, List.forall_mem_cons, lacks_append_iff, unmarked_repr,
        keyword, columns, ordered]
      decide
    · rw [pageText, if_neg front]
      apply yields_lines_around legible [q.head] [order, _, _] _ inner
      simp only [List.forall_mem_append, List.forall_mem_cons, lacks_append_iff, unmarked_repr,
        head, ordered]
      decide
  | rowNumber =>
    apply yields_lines_around legible ["SELECT * FROM ("] [_, _, _] _
      (yields_numbered builtIn clean ordered inner)
    simp only [List.forall_mem_append, List.forall_mem_cons, lacks_append_iff, unmarked_repr,
      paged, rowNumber]
    decide
  | rownum =>
    have base := yields_lines_around legible [q.head] [order] (by simp [head, ordered]) inner
    apply yields_lines_around legible ["SELECT * FROM (", _] [_, _, _, _] _ base
    simp only [List.forall_mem_append, List.forall_mem_cons, lacks_append_iff, unmarked_repr,
      outer, rowNumber]
    decide

end Pager

/-- A query for what the sample session has built. -/
def Sample.query : Select where
  table := "people"
  columns := ["name", "COUNT(*)"]
  filter := some Sample.condition
  groupBy := ["name"]
  having := Sample.leaves[1]?
  orderBy := [⟨"name", false⟩]
  distinct := false

namespace Session

variable {c : Command} {d : Dialect} {operators : OperatorTable} {q : Select}

/-- What is known of a condition of a statement that has been built on a command. -/
theorem holds_of_built {s : Session} (h : s.Consistent) (dialect : c.dialect ∈ Dialect.builtIn)
    (stem : isIdentifier c.stem = true) {condition : Option Condition}
    (built : ∀ e ∈ condition, s.Built operators c e)
    (clean : ∀ e ∈ condition, ∀ t ∈ e.written, Unmarked t) {text : String}
    (rendered : Select.conditionText operators condition = .ok text) :
    ∃ ps taken, Select.Holds operators c.dialect.marker (s.Issued c) condition text ps taken :=
  Select.holds_of_agrees
    (fun e he _ own => agrees_of_built h dialect stem (built e he) (clean e he) own) rendered

theorem placeholders_paginate {actions : List Action} (builtIn : d ∈ Dialect.builtIn)
    (same : c.dialect = d) (stem : isIdentifier c.stem = true)
    (filter : ∀ e ∈ q.filter, (after actions).Built operators c e)
    (having : ∀ e ∈ q.having, (after actions).Built operators c e)
    (clean : ∀ t ∈ q.written, Unmarked t) {index size : Int} {reverse : Bool} {page : Compiled}
    (paged : d.paginate operators q index size reverse = .ok page) :
    ∃ first second, Select.ownParameters operators q.filter = .ok first ∧
      Select.ownParameters operators q.having = .ok second ∧
      d.marker.scan page.sql = boundNames first ++ boundNames second ∧
      (∀ name, name ∈ page.bindings.names ↔ name ∈ boundNames first ++ boundNames second) ∧
      (∀ p ∈ first ++ second, p.bindable = true →
        (after actions).Issued c p ∧ page.bindings.find? p.name = some p.value) ∧
      ∀ otherIndex otherSize otherReverse other,
        d.paginate operators q otherIndex otherSize otherReverse = .ok other →
          other.bindings = page.bindings := by
  subst same
  have consistent := consistent_after actions
  have inner : ∀ e ∈ q.filter.toList ++ q.having.toList, ∀ t ∈ e.written, Unmarked t := by
    intro e he t ht
    exact clean t (List.mem_append_right _ (List.mem_flatMap.mpr ⟨e, he, ht⟩))
  obtain ⟨-, -, bound, ordering, hordering, rendered⟩ := Dialect.paginate_ok paged
  obtain ⟨body, hbody, sql, -⟩ := Pager.render_ok rendered
  obtain ⟨filterText, havingText, filtered, grouped⟩ := Select.conditionTexts_of_body hbody
  obtain ⟨first, taken, hfilter⟩ := holds_of_built consistent builtIn stem filter
    (fun e he => inner e (List.mem_append_left _ (Option.mem_toList.mpr he))) filtered
  obtain ⟨second, taken', hhaving⟩ := holds_of_built consistent builtIn stem having
    (fun e he => inner e (List.mem_append_right _ (Option.mem_toList.mpr he))) grouped
  have legible := Marker.legible_of_builtIn builtIn
  have bindings := Select.bindings_of_holds hfilter hhaving
  have yields := Select.yields_body legible clean hfilter hhaving hbody
  have order : Unmarked (OrderItem.clause ordering) := by
    apply Select.unmarked_order
    intro o ho
    apply clean
    have expr := Select.expr_mem_of_ordering hordering ho
    simp [Select.written, List.mem_map.mp expr]
  have columns : ∀ t ∈ q.columns, Unmarked t := fun t ht => clean t (by simp [Select.written, ht])
  have kept : page.bindings = .ofParameters (first ++ second) :=
    Except.ok.inj (bound.symm.trans bindings)
  have owned : ∀ p ∈ first ++ second, (after actions).Issued c p :=
    List.forall_mem_append.mpr ⟨hfilter.owned, hhaving.owned⟩
  refine ⟨first, second, hfilter.own_eq, hhaving.own_eq, ?_, ?_, ?_, ?_⟩
  · rw [sql]
    exact Marker.scan_of_yields (Pager.yields_pageText builtIn _ columns order yields)
  · intro name
    rw [kept, Bindings.mem_names_ofParameters, Parameter.boundNames_append]
  · intro p hp bindable
    rw [kept]
    exact ⟨owned p hp, find?_ofParameters_of_issued consistent owned hp bindable⟩
  · intro otherIndex otherSize otherReverse other cut
    have bound' := (Dialect.paginate_ok cut).2.2.1
    exact Except.ok.inj (bound'.symm.trans bound)

theorem placeholders_paginate_sample :
    ∃ page, Sample.command.dialect.paginate .builtIn Sample.query 2 10 true = .ok page ∧
      ∃ first second, Select.ownParameters .builtIn Sample.query.filter = .ok first ∧
        Select.ownParameters .builtIn Sample.query.having = .ok second ∧
        Sample.command.dialect.marker.scan page.sql = boundNames first ++ boundNames second ∧
        (∀ name, name ∈ page.bindings.names ↔ name ∈ boundNames first ++ boundNames second) ∧
        (∀ p ∈ first ++ second, p.bindable = true →
          (after Sample.actions).Issued Sample.command p ∧
            page.bindings.find? p.name = some p.value) ∧
        ∀ otherIndex otherSize otherReverse other,
          Sample.command.dialect.paginate .builtIn Sample.query otherIndex otherSize
              otherReverse = .ok other →
            other.bindings = page.bindings := by
  obtain ⟨page, paged⟩ :
      ∃ page, Sample.command.dialect.paginate .builtIn Sample.query 2 10 true = .ok page :=
    ⟨_, rfl⟩
  refine ⟨page, paged, placeholders_paginate (by decide) rfl (by decide +kernel) ?_ ?_
    (by decide +kernel) paged⟩
  · intro e he
    cases he
    exact Sample.built_condition
  · intro e he
    cases he
    exact Sample.built_leaves _ (by simp [Sample.leaves])

end Session

end Criteria
