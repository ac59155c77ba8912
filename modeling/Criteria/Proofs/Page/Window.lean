import Criteria.Proofs.Page.RowLimit
import Criteria.Proofs.Page.Unpaged

/-!
# The window of a page

All pagers cut the same window out of a result, each in its own terms. So pages of one number and
size hold the same rows whatever the dialect, and the pages of a result taken one after the other
are the result.
-/

namespace Criteria

namespace Pager

open Text

/-- The clauses by which a pager keeps `limit` rows behind the first `offset`. -/
def rowLimit (pager : Pager) (offset limit : Nat) : RowLimit :=
  match pager with
  | .limitOffset => .limit limit (if offset = 0 then none else some offset)
  | .offsetFetch => if offset = 0 then .top limit else .fetch offset limit
  | .rowNumber => .numbered (offset + 1) (offset + limit)
  | .rownum => .capped (offset + limit) offset

theorem rows_rowLimit {α : Type} (pager : Pager) (offset limit : Nat) (rows : List α) :
    (pager.rowLimit offset limit).rows rows = (rows.drop offset).take limit := by
  cases pager with
  | limitOffset =>
    by_cases front : offset = 0
    · simp [rowLimit, RowLimit.rows, front]
    · simp [rowLimit, RowLimit.rows, front]
  | offsetFetch =>
    by_cases front : offset = 0
    · simp [rowLimit, RowLimit.rows, front]
    · simp [rowLimit, RowLimit.rows, front]
  | rowNumber => exact RowLimit.rows_numbered rows offset limit
  | rownum => exact RowLimit.rows_capped rows offset limit

/-- An order that is not empty ends in a direction. -/
theorem clause_ends {items : List OrderItem} (ordered : items ≠ []) :
    ∃ front, ∃ descending : Bool,
      OrderItem.clause items = front ++ (if descending then " DESC" else " ASC") := by
  obtain ⟨others, last, rfl⟩ := (List.eq_nil_or_concat items).resolve_left ordered
  have own : OrderItem.clause (others ++ [last]) =
      "ORDER BY " ++ String.intercalate ", " (others.map OrderItem.text ++ [last.text]) := by
    simp [OrderItem.clause]
  rw [List.concat_eq_append, own]
  cases others with
  | nil => exact ⟨"ORDER BY " ++ last.expr, last.descending, by
      simp [OrderItem.text, String.append_assoc]⟩
  | cons o others =>
    refine ⟨"ORDER BY " ++ (String.intercalate ", " ((o :: others).map OrderItem.text) ++ ", " ++
      last.expr), last.descending, ?_⟩
    rw [String.intercalate_append_of_ne_nil (by simp) (by simp), String.intercalate_singleton,
      OrderItem.text]
    simp only [String.append_assoc]

theorem readTop?_pageText (q : Select) (d : Dialect) (limit : Nat) (body order : String) :
    RowLimit.readTop? (pageText .offsetFetch q d 0 limit body order).toList =
      some (.top limit) := by
  obtain ⟨behind, -, text⟩ := pageText_top q d limit body order
  have front := RowLimit.readTop?_front q.distinct limit behind
  rw [← String.append_assoc] at front
  rw [text]
  exact front

/-- A first page that is ordered ends in its order. -/
theorem readFetch?_pageText (q : Select) (d : Dialect) (limit : Nat) (body : String)
    {ordering : List OrderItem} (ordered : ordering ≠ []) :
    RowLimit.readFetch? (pageText .offsetFetch q d 0 limit body
      (OrderItem.clause ordering)).toList.reverse = none := by
  obtain ⟨front, descending, order⟩ := clause_ends ordered
  have filled : OrderItem.clause ordering ≠ "" := ordered ∘ OrderItem.clause_eq_empty_iff.mp
  let first := lines [q.keyword ++ " TOP (" ++ limit.repr ++ ") " ++ q.selectList, body]
  have page : pageText .offsetFetch q d 0 limit body (OrderItem.clause ordering) =
      first ++ ("\n" ++ front) ++ (if descending then " DESC" else " ASC") := by
    calc
      _ = first ++ ("\n" ++ OrderItem.clause ordering) :=
        lines_concat (top_ne_empty q limit) filled [body]
      _ = _ := by
        rw [order]
        simp only [String.append_assoc]
  rw [page]
  exact RowLimit.readFetch?_eq_none _ descending

/-- The clauses are read back from the text of the page, whatever the query itself says. -/
theorem read?_pageText {pager : Pager} {q : Select} {d : Dialect} {offset limit : Nat}
    {body : String} {ordering : List OrderItem}
    (ordered : pager = .offsetFetch → offset ≠ 0 → OrderItem.clause ordering ≠ "") :
    RowLimit.read? pager (d.quote rowNumberColumn) (!ordering.isEmpty)
      (pager.pageText q d offset limit body (OrderItem.clause ordering)) =
      some (pager.rowLimit offset limit) := by
  cases pager with
  | limitOffset =>
    rw [pageText_limitOffset]
    by_cases front : offset = 0
    · simpa [RowLimit.read?, rowLimit, front] using RowLimit.readLimit?_first _ limit
    · simpa [RowLimit.read?, rowLimit, front] using RowLimit.readLimit?_behind _ limit offset
  | offsetFetch =>
    by_cases front : offset = 0
    · subst front
      have top := readTop?_pageText q d limit body (OrderItem.clause ordering)
      by_cases unordered : ordering = []
      · simpa [RowLimit.read?, rowLimit, unordered] using top
      · have fetch := readFetch?_pageText q d limit body unordered
        simp [RowLimit.read?, rowLimit, unordered, top, fetch]
    · have nonempty : ordering ≠ [] := by
        rintro rfl
        exact ordered rfl front rfl
      have fetch := RowLimit.readFetch?_behind
        (lines [q.head, body, OrderItem.clause ordering]) offset limit
      rw [← pageText_fetch q d offset limit body (OrderItem.clause ordering) front] at fetch
      simp [RowLimit.read?, rowLimit, nonempty, front, fetch]
  | rowNumber =>
    rw [pageText_rowNumber]
    exact RowLimit.readNumbered?_behind _ _ _ _
  | rownum =>
    rw [pageText_rownum]
    exact RowLimit.readCapped?_behind _ _ _ _

end Pager
namespace Dialect

variable {α : Type} {d e : Dialect} {operators : OperatorTable} {q r : Select} {page : Compiled}

/-- The rows of a page, out of the rows of the query in their order, by the clauses in its text. -/
def pageRows? (d : Dialect) (q : Select) (page : Compiled) (rows : List α) : Option (List α) :=
  (RowLimit.read? d.pager (d.quote Pager.rowNumberColumn) (!q.orderBy.isEmpty) page.sql).map
    (·.rows rows)

theorem isEmpty_of_ordering {reverse : Bool} {ordering : List OrderItem}
    (h : q.ordering reverse = .ok ordering) : ordering.isEmpty = q.orderBy.isEmpty := by
  cases reverse with
  | false =>
    cases h
    rfl
  | true =>
    cases items : q.orderBy with
    | nil => simp [Select.ordering, items] at h
    | cons o rest =>
      simp only [Select.ordering, items, List.isEmpty_cons, if_true] at h
      cases h
      rfl

theorem pageRows?_of_paginate {index size : Int} {reverse : Bool}
    (paged : d.paginate operators q index size reverse = .ok page) (rows : List α) :
    d.pageRows? q page rows =
      some ((rows.drop (index * size).toNat).take size.toNat) := by
  obtain ⟨-, -, -, ordering, hordering, rendered⟩ := paginate_ok paged
  obtain ⟨body, -, sql, ordered⟩ := Pager.render_ok rendered
  rw [pageRows?, sql, ← isEmpty_of_ordering hordering, Pager.read?_pageText ordered,
    Option.map_some, Pager.rows_rowLimit]

theorem flatMap_windows (rows : List α) (size n : Nat) :
    ((List.range n).flatMap fun i => (rows.drop (i * size)).take size) = rows.take (n * size) := by
  induction n with
  | zero => simp
  | succ n ih =>
    rw [List.range_succ, List.flatMap_append, ih, List.flatMap_singleton, Nat.succ_mul,
      List.take_add]

/-- Page after page, from the first one on. -/
theorem mapM_pageRows? {size : Int} {reverse : Bool} {indices : List Nat} {pages : List Compiled}
    (paged : (indices.mapM fun i : Nat => d.paginate operators q i size reverse) = .ok pages)
    (rows : List α) :
    pages.mapM (d.pageRows? q · rows) =
      some (indices.map fun i => (rows.drop (i * size.toNat)).take size.toNat) := by
  induction indices generalizing pages with
  | nil =>
    cases paged
    rfl
  | cons i indices ih =>
    rw [List.mapM_cons, bind_eq_ok_iff] at paged
    obtain ⟨page, hpage, paged⟩ := paged
    rw [bind_eq_ok_iff] at paged
    obtain ⟨others, hothers, paged⟩ := paged
    cases paged
    obtain ⟨-, positive, -⟩ := paginate_ok hpage
    have offset : ((i : Int) * size).toNat = i * size.toNat := by
      have whole : size = (size.toNat : Int) := (Int.toNat_of_nonneg (by omega)).symm
      rw [whole, ← Int.natCast_mul, Int.toNat_natCast, Int.toNat_natCast]
    have first := pageRows?_of_paginate hpage rows
    rw [offset] at first
    rw [List.mapM_cons, first, ih hothers]
    rfl

theorem windows_of_pages {index size : Int} {reverse : Bool}
    (paged : d.paginate operators q index size reverse = .ok page) (rows : List α) :
    d.pageRows? q page rows = some ((rows.drop (index * size).toNat).take size.toNat) ∧
    (∀ (e : Dialect) (r : Select) (reverse' : Bool) (page' : Compiled),
      e.paginate operators r index size reverse' = .ok page' →
        e.pageRows? r page' rows = d.pageRows? q page rows) ∧
    (∀ (n : Nat) (pages : List Compiled),
      ((List.range n).mapM fun i : Nat => d.paginate operators q i size reverse) = .ok pages →
        ∃ windows, pages.mapM (d.pageRows? q · rows) = some windows ∧
          windows.flatten = rows.take (n * size.toNat) ∧
          (rows.length ≤ n * size.toNat → windows.flatten = rows)) ∧
    (rows.length ≤ (index * size).toNat → d.pageRows? q page rows = some []) := by
  have window := pageRows?_of_paginate paged rows
  refine ⟨window, ?_, ?_, ?_⟩
  · intro e r reverse' page' paged'
    rw [window, pageRows?_of_paginate paged']
  · intro n pages paged
    have flat := flatMap_windows rows size.toNat n
    rw [List.flatMap_def] at flat
    refine ⟨_, mapM_pageRows? paged rows, flat, ?_⟩
    intro long
    rw [flat, List.take_of_length_le long]
  · intro behind
    rw [window, List.drop_of_length_le behind, List.take_nil]

/-- A query that says what to do first. -/
def listing : Select := ⟨"people", ["name"], none, [], none, [⟨"name", false⟩], false⟩

theorem windows_of_pages_listing :
    ∃ page, sqlserverce.paginate .builtIn listing 1 2 false = .ok page ∧
      sqlserverce.pageRows? listing page ["a", "b", "c", "d", "e"] = some ["c", "d"] ∧
      (∀ (e : Dialect) (r : Select) (reverse' : Bool) (page' : Compiled),
        e.paginate .builtIn r 1 2 reverse' = .ok page' →
          e.pageRows? r page' ["a", "b", "c", "d", "e"] =
            sqlserverce.pageRows? listing page ["a", "b", "c", "d", "e"]) ∧
      (∀ (n : Nat) (pages : List Compiled),
        ((List.range n).mapM fun i : Nat => sqlserverce.paginate .builtIn listing i 2 false) =
            .ok pages →
          ∃ windows, pages.mapM (sqlserverce.pageRows? listing · ["a", "b", "c", "d", "e"]) =
              some windows ∧
            windows.flatten = ["a", "b", "c", "d", "e"].take (n * 2) ∧
            (5 ≤ n * 2 → windows.flatten = ["a", "b", "c", "d", "e"])) ∧
      (5 ≤ 2 → sqlserverce.pageRows? listing page ["a", "b", "c", "d", "e"] = some []) := by
  obtain ⟨page, paged⟩ : ∃ page, sqlserverce.paginate .builtIn listing 1 2 false = .ok page :=
    ⟨_, rfl⟩
  exact ⟨page, paged, windows_of_pages paged ["a", "b", "c", "d", "e"]⟩

end Dialect
end Criteria
