import Criteria.Page
import Criteria.Proofs.Outcome

/-!
# The text of a page

What the text of a page is when a pager succeeds: the same pieces of the query around the same body,
with the numbers of the window in decimal digits.
-/

namespace Criteria

theorem OrderItem.clause_eq_empty_iff {items : List OrderItem} : clause items = "" ↔ items = [] := by
  cases items with
  | nil => exact ⟨fun _ => rfl, fun _ => rfl⟩
  | cons o rest => simp [clause, ← String.toList_inj]

theorem integerText_ok {n : Nat} {text : String} (h : integerText n = .ok text) : text = n.repr := by
  by_cases short : Numeral.Short n
  · exact (Except.ok.inj ((if_pos short).symm.trans h)).symm
  · cases (if_neg short).symm.trans h

namespace Pager

/-- What stands before the row numbers of a source that is to be paged. -/
def numbering (d : Dialect) (order : String) : String :=
  "ROW_NUMBER() OVER (" ++ (if order = "" then "ORDER BY (SELECT 0)" else order) ++ ") AS " ++
    d.quote rowNumberColumn

/-- The query with its rows numbered. -/
def numbered (q : Select) (d : Dialect) (body order : String) : String :=
  let source := d.quote "__distinct"
  if q.distinct then
    Text.lines ["SELECT " ++ source ++ ".*, " ++ numbering d order ++ " FROM (",
      Text.lines [q.head, body], ") AS " ++ source]
  else Text.lines ["SELECT " ++ q.selectList ++ ", " ++ numbering d order, body]

/-- The statement for `limit` rows behind the first `offset`, around the body of the query. -/
def pageText (pager : Pager) (q : Select) (d : Dialect) (offset limit : Nat)
    (body order : String) : String :=
  let rowNumber := d.quote rowNumberColumn
  match pager with
  | .limitOffset =>
    Text.lines [q.head, body, order, "LIMIT " ++ limit.repr,
      if offset = 0 then "" else "OFFSET " ++ offset.repr]
  | .offsetFetch =>
    if offset = 0 then
      Text.lines [q.keyword ++ " TOP (" ++ limit.repr ++ ") " ++ q.selectList, body, order]
    else
      Text.lines [q.head, body, order, "OFFSET " ++ offset.repr ++ " ROWS",
        "FETCH NEXT " ++ limit.repr ++ " ROWS ONLY"]
  | .rowNumber =>
    Text.lines ["SELECT * FROM (", numbered q d body order, ") AS " ++ d.quote "__paged",
      "WHERE " ++ rowNumber ++ " BETWEEN " ++ (offset + 1).repr ++ " AND " ++
        (offset + limit).repr,
      "ORDER BY " ++ rowNumber]
  | .rownum =>
    let ordered := d.quote "__ordered"
    Text.lines ["SELECT * FROM (",
      "SELECT " ++ ordered ++ ".*, ROWNUM AS " ++ rowNumber ++ " FROM (",
      Text.lines [q.head, body, order], ") " ++ ordered,
      "WHERE ROWNUM <= " ++ (offset + limit).repr, ")",
      "WHERE " ++ rowNumber ++ " > " ++ offset.repr]

/-- A pager that succeeds writes its text around the body of the query. Only behind the first page
it may need an order for that. -/
theorem render_ok {pager : Pager} {operators : OperatorTable} {q : Select} {d : Dialect}
    {offset limit : Nat} {ordering : List OrderItem} {sql : String}
    (h : pager.render operators q d offset limit ordering = .ok sql) :
    ∃ body, q.body operators = .ok body ∧
      sql = pager.pageText q d offset limit body (OrderItem.clause ordering) ∧
      (pager = .offsetFetch → offset ≠ 0 → OrderItem.clause ordering ≠ "") := by
  cases pager with
  | limitOffset =>
    simp only [render, bind_eq_ok_iff] at h
    obtain ⟨body, hbody, skipped, hskipped, limited, hlimited, h⟩ := h
    cases h
    rw [integerText_ok hskipped, integerText_ok hlimited]
    refine ⟨body, hbody, rfl, ?_⟩
    intro other
    cases other
  | offsetFetch =>
    by_cases front : offset = 0
    · simp only [render, front, if_true, bind_eq_ok_iff] at h
      obtain ⟨limited, hlimited, body, hbody, h⟩ := h
      cases h
      rw [integerText_ok hlimited]
      exact ⟨body, hbody, by simp [pageText, front], fun _ behind => absurd front behind⟩
    · by_cases unordered : OrderItem.clause ordering = ""
      · simp only [render, front, unordered, if_true, if_false] at h
        cases h
      · simp only [render, front, unordered, if_false, bind_eq_ok_iff] at h
        obtain ⟨body, hbody, skipped, hskipped, limited, hlimited, h⟩ := h
        cases h
        rw [integerText_ok hskipped, integerText_ok hlimited]
        exact ⟨body, hbody, by simp [pageText, front], fun _ _ => unordered⟩
  | rowNumber =>
    simp only [render, bind_eq_ok_iff] at h
    obtain ⟨body, hbody, first, hfirst, last, hlast, h⟩ := h
    cases h
    rw [integerText_ok hfirst, integerText_ok hlast]
    refine ⟨body, hbody, rfl, ?_⟩
    intro other
    cases other
  | rownum =>
    simp only [render, bind_eq_ok_iff] at h
    obtain ⟨body, hbody, last, hlast, skipped, hskipped, h⟩ := h
    cases h
    rw [integerText_ok hlast, integerText_ok hskipped]
    refine ⟨body, hbody, rfl, ?_⟩
    intro other
    cases other

end Pager

namespace Dialect

/-- Everything that has been checked for a page that is cut. -/
theorem paginate_passed {d : Dialect} {operators : OperatorTable} {q : Select} {index size : Int}
    {reverse : Bool} {page : Compiled}
    (h : d.paginate operators q index size reverse = .ok page) :
    0 ≤ index ∧ 0 < size ∧ d.requireDialect q.filter = .ok () ∧
      d.requireDialect q.having = .ok () ∧ q.bindings operators = .ok page.bindings ∧
      page.dialect = d.name ∧ ∃ ordering, q.ordering reverse = .ok ordering ∧
        d.pager.render operators q d (index * size).toNat size.toNat ordering = .ok page.sql := by
  by_cases negative : index < 0
  · simp only [paginate, negative, if_true] at h
    cases h
  · by_cases small : size ≤ 0
    · simp only [paginate, negative, small, if_true, if_false] at h
      cases h
    · simp only [paginate, negative, small, if_false, bind_eq_ok_iff] at h
      obtain ⟨⟨⟩, filter, ⟨⟩, having, ordering, hordering, sql, hsql, bindings, hbindings, h⟩ := h
      cases h
      exact ⟨by omega, by omega, filter, having, hbindings, rfl, ordering, hordering, hsql⟩

/-- A page that is cut has a window to be cut, and binds what the query binds. -/
theorem paginate_ok {d : Dialect} {operators : OperatorTable} {q : Select} {index size : Int}
    {reverse : Bool} {page : Compiled}
    (h : d.paginate operators q index size reverse = .ok page) :
    0 ≤ index ∧ 0 < size ∧ q.bindings operators = .ok page.bindings ∧
      ∃ ordering, q.ordering reverse = .ok ordering ∧
        d.pager.render operators q d (index * size).toNat size.toNat ordering = .ok page.sql := by
  obtain ⟨negative, small, -, -, bindings, -, ordering⟩ := paginate_passed h
  exact ⟨negative, small, bindings, ordering⟩

end Dialect
end Criteria
