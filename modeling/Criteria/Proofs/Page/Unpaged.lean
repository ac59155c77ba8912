import Criteria.Proofs.Page.Text

/-!
# Pages and the statements that they are cut from

The text of a page is the text of the whole statement inside fixed lines of the pager. Only a first
page that is cut by `TOP` has something put into the head of the statement, and row numbers take the
order of the statement out of it and a column more into it.
-/

namespace Criteria

namespace Text

theorem lines_concat_empty (parts : List String) : lines (parts ++ [""]) = lines parts := by
  simp [lines]

theorem lines_of_filled {parts : List String} (filled : "" ∉ parts) :
    lines parts = "\n".intercalate parts := by
  have all : parts.filter (· ≠ "") = parts := by
    rw [List.filter_eq_self]
    intro t ht
    simpa using fun empty : t = "" => filled (empty ▸ ht)
  rw [lines, all]

/-- What stands behind the first line does not depend on it. -/
theorem lines_cons (parts : List String) :
    ∃ behind, ∀ first, first ≠ "" → lines (first :: parts) = first ++ behind := by
  have own : ∀ first, first ≠ "" →
      (first :: parts).filter (· ≠ "") = first :: parts.filter (· ≠ "") :=
    fun first filled => by simp [filled]
  cases others : parts.filter (· ≠ "") with
  | nil =>
    refine ⟨"", fun first filled => ?_⟩
    rw [lines, own first filled, others, String.intercalate_singleton, String.append_empty]
  | cons t rest =>
    refine ⟨"\n" ++ "\n".intercalate (t :: rest), fun first filled => ?_⟩
    rw [lines, own first filled, others, String.intercalate_cons_cons, String.append_assoc]

theorem lines_ne_empty {first : String} (filled : first ≠ "") (parts : List String) :
    lines (first :: parts) ≠ "" := by
  obtain ⟨behind, text⟩ := lines_cons parts
  rw [text first filled]
  exact fun empty => filled (String.append_eq_empty_iff.mp empty).1

/-- The last line stands behind the others. -/
theorem lines_concat {first last : String} (filled : first ≠ "") (filled' : last ≠ "")
    (parts : List String) :
    lines (first :: parts ++ [last]) = lines (first :: parts) ++ ("\n" ++ last) := by
  have own : (first :: parts).filter (· ≠ "") ≠ [] := by simp [filled]
  have own' : [last].filter (· ≠ "") = [last] := by simp [filled']
  rw [lines, List.filter_append, own', String.intercalate_append_of_ne_nil own (by simp),
    String.intercalate_singleton, String.append_assoc]
  rfl

/-- A last line that begins with some words. -/
theorem lines_concat_words {first : String} (filled : first ≠ "") (parts : List String)
    {words : String} (filled' : words ≠ "") (rest : String) :
    lines (first :: parts ++ [words ++ rest]) =
      lines (first :: parts) ++ ("\n" ++ words ++ rest) := by
  have last : words ++ rest ≠ "" := fun empty => filled' (String.append_eq_empty_iff.mp empty).1
  rw [lines_concat filled last, String.append_assoc]

end Text

namespace Pager

open Text

theorem head_ne_empty (q : Select) : q.head ≠ "" := by
  intro empty
  have chars := congrArg String.toList empty
  simp [Select.head] at chars

theorem top_ne_empty (q : Select) (limit : Nat) :
    q.keyword ++ " TOP (" ++ limit.repr ++ ") " ++ q.selectList ≠ "" := by
  intro empty
  have chars := congrArg String.toList empty
  simp at chars

section

variable (q : Select) (d : Dialect) (offset limit : Nat) (body order : String)

theorem pageText_limitOffset :
    pageText .limitOffset q d offset limit body order =
      lines [q.head, body, order] ++ ("\nLIMIT " ++ limit.repr) ++
        (if offset = 0 then "" else "\nOFFSET " ++ offset.repr) := by
  have limited : "LIMIT " ≠ "" := by decide
  have skipped : "OFFSET " ≠ "" := by decide
  have first : lines [q.head, body, order, "LIMIT " ++ limit.repr] =
      lines [q.head, body, order] ++ ("\nLIMIT " ++ limit.repr) :=
    lines_concat_words (head_ne_empty q) [body, order] limited _
  by_cases front : offset = 0
  · have all := lines_concat_empty [q.head, body, order, "LIMIT " ++ limit.repr]
    rw [first] at all
    simpa [pageText, front] using all
  · have all : lines [q.head, body, order, "LIMIT " ++ limit.repr, "OFFSET " ++ offset.repr] =
        lines [q.head, body, order, "LIMIT " ++ limit.repr] ++ ("\nOFFSET " ++ offset.repr) :=
      lines_concat_words (head_ne_empty q) [body, order, _] skipped _
    rw [first] at all
    simpa [pageText, front] using all

/-- The rows of a first page are counted between the keyword and the columns. -/
theorem pageText_top :
    ∃ behind, lines [q.head, body, order] = q.keyword ++ behind ∧
      pageText .offsetFetch q d 0 limit body order =
        q.keyword ++ " TOP (" ++ limit.repr ++ ")" ++ behind := by
  obtain ⟨behind, text⟩ := lines_cons [body, order]
  refine ⟨" " ++ q.selectList ++ behind, ?_, ?_⟩
  · rw [text _ (head_ne_empty q), Select.head]
    simp only [String.append_assoc]
  · rw [pageText, if_pos rfl, text _ (top_ne_empty q limit), ← String.toList_inj]
    simp

theorem pageText_fetch (nonzero : offset ≠ 0) :
    pageText .offsetFetch q d offset limit body order =
      lines [q.head, body, order] ++ ("\nOFFSET " ++ offset.repr) ++
        (" ROWS\nFETCH NEXT " ++ limit.repr) ++ " ROWS ONLY" := by
  have skipped : "OFFSET " ≠ "" := by decide
  have fetched : "FETCH NEXT " ≠ "" := by decide
  have first : lines [q.head, body, order, "OFFSET " ++ (offset.repr ++ " ROWS")] =
      lines [q.head, body, order] ++ ("\nOFFSET " ++ (offset.repr ++ " ROWS")) :=
    lines_concat_words (head_ne_empty q) [body, order] skipped _
  have all : lines [q.head, body, order, "OFFSET " ++ (offset.repr ++ " ROWS"),
      "FETCH NEXT " ++ (limit.repr ++ " ROWS ONLY")] =
        lines [q.head, body, order, "OFFSET " ++ (offset.repr ++ " ROWS")] ++
          ("\nFETCH NEXT " ++ (limit.repr ++ " ROWS ONLY")) :=
      lines_concat_words (head_ne_empty q) [body, order, _] fetched _
  rw [first] at all
  rw [pageText, if_neg nonzero]
  simp only [String.append_assoc] at all ⊢
  rw [all, ← String.toList_inj]
  simp

/-- A statement without repeated rows is numbered from outside, another one in its own head. -/
theorem numbered_eq :
    (q.distinct = true → numbered q d body order =
      "SELECT " ++ d.quote "__distinct" ++ ".*, " ++ numbering d order ++ " FROM (\n" ++
        lines [q.head, body] ++ ("\n) AS " ++ d.quote "__distinct")) ∧
    (q.distinct = false → ∃ behind, lines [q.head, body] = "SELECT " ++ q.selectList ++ behind ∧
      numbered q d body order =
        "SELECT " ++ q.selectList ++ (", " ++ numbering d order) ++ behind) := by
  constructor
  · intro distinct
    have filled : "" ∉ ["SELECT " ++ d.quote "__distinct" ++ ".*, " ++ numbering d order ++
        " FROM (", lines [q.head, body], ") AS " ++ d.quote "__distinct"] := by
      simp [lines_ne_empty (head_ne_empty q) [body], eq_comm (a := "")]
    rw [numbered, if_pos distinct, lines_of_filled filled, ← String.toList_inj]
    simp
  · intro plain
    obtain ⟨behind, text⟩ := lines_cons [body]
    have head : q.head = "SELECT " ++ q.selectList := by
      simp [Select.head, Select.keyword, plain]
    refine ⟨behind, ?_, ?_⟩
    · rw [text _ (head_ne_empty q), head]
    · have filled : "SELECT " ++ q.selectList ++ ", " ++ numbering d order ≠ "" := by
        simp [← String.toList_inj]
      rw [numbered, plain, if_neg Bool.false_ne_true, text _ filled]
      simp only [String.append_assoc]

theorem numbered_ne_empty : numbered q d body order ≠ "" := by
  intro empty
  have chars := congrArg String.toList empty
  cases distinct : q.distinct with
  | true =>
    rw [(numbered_eq q d body order).1 distinct] at chars
    simp at chars
  | false =>
    obtain ⟨behind, -, text⟩ := (numbered_eq q d body order).2 distinct
    rw [text] at chars
    simp at chars

theorem pageText_rowNumber :
    pageText .rowNumber q d offset limit body order =
      "SELECT * FROM (\n" ++ numbered q d body order ++ ("\n) AS " ++ d.quote "__paged") ++
        ("\nWHERE " ++ d.quote rowNumberColumn ++ " BETWEEN " ++ (offset + 1).repr) ++
        (" AND " ++ (offset + limit).repr) ++ ("\nORDER BY " ++ d.quote rowNumberColumn) := by
  have filled : "" ∉ ["SELECT * FROM (", numbered q d body order, ") AS " ++ d.quote "__paged",
      "WHERE " ++ d.quote rowNumberColumn ++ " BETWEEN " ++ (offset + 1).repr ++ " AND " ++
        (offset + limit).repr, "ORDER BY " ++ d.quote rowNumberColumn] := by
    simp [numbered_ne_empty q d body order, eq_comm (a := "")]
  rw [pageText, lines_of_filled filled, ← String.toList_inj]
  simp

theorem pageText_rownum :
    pageText .rownum q d offset limit body order =
      "SELECT * FROM (\nSELECT " ++ d.quote "__ordered" ++ ".*, ROWNUM AS " ++
        d.quote rowNumberColumn ++ " FROM (\n" ++ lines [q.head, body, order] ++
        ("\n) " ++ d.quote "__ordered") ++ ("\nWHERE ROWNUM <= " ++ (offset + limit).repr) ++
        ("\n)\nWHERE " ++ d.quote rowNumberColumn ++ " > " ++ offset.repr) := by
  have filled : "" ∉ ["SELECT * FROM (", "SELECT " ++ d.quote "__ordered" ++ ".*, ROWNUM AS " ++
      d.quote rowNumberColumn ++ " FROM (", lines [q.head, body, order],
      ") " ++ d.quote "__ordered", "WHERE ROWNUM <= " ++ (offset + limit).repr, ")",
      "WHERE " ++ d.quote rowNumberColumn ++ " > " ++ offset.repr] := by
    simp [lines_ne_empty (head_ne_empty q) [body, order], eq_comm (a := "")]
  rw [pageText, lines_of_filled filled, ← String.toList_inj]
  simp

end

/-- How the text of a page is made from the text `sql` of the whole statement, from its text `bare`
without an order, and from this order. -/
def Wraps (pager : Pager) (q : Select) (d : Dialect) (index size : Int)
    (sql bare order page : String) : Prop :=
  match pager with
  | .limitOffset =>
    page = sql ++ ("\nLIMIT " ++ size.repr) ++
      (if 0 < index then "\nOFFSET " ++ (index * size).repr else "")
  | .offsetFetch =>
    (0 < index → page = sql ++ ("\nOFFSET " ++ (index * size).repr) ++
      (" ROWS\nFETCH NEXT " ++ size.repr) ++ " ROWS ONLY") ∧
    (index = 0 → ∃ behind, sql = q.keyword ++ behind ∧
      page = q.keyword ++ " TOP (" ++ size.repr ++ ")" ++ behind)
  | .rowNumber =>
    ∃ inner,
      (q.distinct = true → inner =
        "SELECT " ++ d.quote "__distinct" ++ ".*, " ++ numbering d order ++ " FROM (\n" ++ bare ++
          ("\n) AS " ++ d.quote "__distinct")) ∧
      (q.distinct = false → ∃ behind, bare = "SELECT " ++ q.selectList ++ behind ∧
        inner = "SELECT " ++ q.selectList ++ (", " ++ numbering d order) ++ behind) ∧
      page = "SELECT * FROM (\n" ++ inner ++ ("\n) AS " ++ d.quote "__paged") ++
        ("\nWHERE " ++ d.quote rowNumberColumn ++ " BETWEEN " ++ (index * size + 1).repr) ++
        (" AND " ++ (index * size + size).repr) ++ ("\nORDER BY " ++ d.quote rowNumberColumn)
  | .rownum =>
    page = "SELECT * FROM (\nSELECT " ++ d.quote "__ordered" ++ ".*, ROWNUM AS " ++
      d.quote rowNumberColumn ++ " FROM (\n" ++ sql ++ ("\n) " ++ d.quote "__ordered") ++
      ("\nWHERE ROWNUM <= " ++ (index * size + size).repr) ++
      ("\n)\nWHERE " ++ d.quote rowNumberColumn ++ " > " ++ (index * size).repr)

theorem wraps_pageText (pager : Pager) (q : Select) (d : Dialect) {index size : Int}
    (known : 0 ≤ index) (positive : 0 < size) (body order : String) :
    pager.Wraps q d index size (lines [q.head, body, order]) (lines [q.head, body]) order
      (pager.pageText q d (index * size).toNat size.toNat body order) := by
  obtain ⟨i, rfl⟩ := Int.eq_ofNat_of_zero_le known
  obtain ⟨n, rfl⟩ := Int.eq_ofNat_of_zero_le (Int.le_of_lt positive)
  have offset : ((i : Int) * n).toNat = i * n := by rw [← Int.natCast_mul, Int.toNat_natCast]
  rw [offset, Int.toNat_natCast]
  cases pager with
  | limitOffset =>
    have start : (0 : Int) < i ↔ i * n ≠ 0 := by
      have nonzero : n ≠ 0 := by omega
      rw [Nat.mul_ne_zero_iff]
      omega
    rw [pageText_limitOffset, Wraps]
    by_cases front : i * n = 0
    · rw [if_pos front, if_neg fun behind => start.mp behind front]
      rfl
    · rw [if_neg front, if_pos (start.mpr front)]
      rfl
  | offsetFetch =>
    constructor
    · intro behind
      have nonzero : i * n ≠ 0 := Nat.mul_ne_zero (by omega) (by omega)
      exact pageText_fetch q d (i * n) n body order nonzero
    · intro front
      obtain rfl : i = 0 := by omega
      rw [Nat.zero_mul]
      exact pageText_top q d n body order
  | rowNumber =>
    obtain ⟨distinct, plain⟩ := numbered_eq q d body order
    exact ⟨numbered q d body order, distinct, plain, pageText_rowNumber q d (i * n) n body order⟩
  | rownum => exact pageText_rownum q d (i * n) n body order

end Pager

namespace Select

variable {operators : OperatorTable} {q : Select} {body : String}

theorem toSql_eq (written : q.body operators = .ok body) {reverse : Bool}
    {ordering : List OrderItem} (ordered : q.ordering reverse = .ok ordering) :
    q.toSql operators reverse = .ok (Text.lines [q.head, body, OrderItem.clause ordering]) := by
  simp only [toSql, written, ordered, ok_bind]
  rfl

/-- The order is the last line of a statement, if it has one. -/
theorem toSql_unordered (written : q.body operators = .ok body) :
    ({ q with orderBy := [] } : Select).toSql operators false =
      .ok (Text.lines [q.head, body]) := by
  rw [toSql_eq (q := { q with orderBy := [] }) written rfl]
  exact congrArg Except.ok (Text.lines_concat_empty [q.head, body])

theorem lines_ordered (q : Select) (body : String) (ordering : List OrderItem) :
    Text.lines [q.head, body, OrderItem.clause ordering] =
      Text.lines [q.head, body] ++
        (if ordering = [] then "" else "\n" ++ OrderItem.clause ordering) := by
  by_cases unordered : ordering = []
  · rw [unordered, if_pos rfl, String.append_empty]
    exact Text.lines_concat_empty [q.head, body]
  · have filled : OrderItem.clause ordering ≠ "" := unordered ∘ OrderItem.clause_eq_empty_iff.mp
    rw [if_neg unordered]
    exact Text.lines_concat (Pager.head_ne_empty q) filled [body]

end Select

namespace Dialect

/-- A page is the whole statement inside what its pager adds, with the order of the statement in
its place. -/
theorem wraps_unpaged {d : Dialect} {operators : OperatorTable} {q : Select} {index size : Int}
    {reverse : Bool} {page : Compiled}
    (paged : d.paginate operators q index size reverse = .ok page) :
    ∃ sql bare ordering, q.toSql operators reverse = .ok sql ∧
      ({ q with orderBy := [] } : Select).toSql operators false = .ok bare ∧
      q.ordering reverse = .ok ordering ∧
      sql = bare ++ (if ordering = [] then "" else "\n" ++ OrderItem.clause ordering) ∧
      d.pager.Wraps q d index size sql bare (OrderItem.clause ordering) page.sql := by
  obtain ⟨known, positive, -, ordering, ordered, rendered⟩ := paginate_ok paged
  obtain ⟨body, written, text, -⟩ := Pager.render_ok rendered
  refine ⟨_, _, ordering, Select.toSql_eq written ordered, Select.toSql_unordered written, ordered,
    Select.lines_ordered q body ordering, ?_⟩
  rw [text]
  exact Pager.wraps_pageText d.pager q d known positive body (OrderItem.clause ordering)

/-- A statement without repeated rows, with a condition that has no text. -/
def census : Select where
  table := "people"
  columns := ["city", "name"]
  filter := some (.membership ⟨0, ⟨0, .sqlserver⟩, "p"⟩ (some "age") [] false)
  groupBy := ["city", "name"]
  having := none
  orderBy := [⟨"city", false⟩, ⟨"name", true⟩]
  distinct := true

theorem wraps_unpaged_census :
    ∃ page, sqlserver.paginate .builtIn census 2 10 true = .ok page ∧
      ∃ sql bare ordering, census.toSql .builtIn true = .ok sql ∧
        ({ census with orderBy := [] } : Select).toSql .builtIn false = .ok bare ∧
        census.ordering true = .ok ordering ∧
        sql = bare ++ (if ordering = [] then "" else "\n" ++ OrderItem.clause ordering) ∧
        Pager.rowNumber.Wraps census sqlserver 2 10 sql bare (OrderItem.clause ordering)
          page.sql := by
  obtain ⟨page, paged⟩ : ∃ page, sqlserver.paginate .builtIn census 2 10 true = .ok page :=
    ⟨_, rfl⟩
  exact ⟨page, paged, wraps_unpaged paged⟩

end Dialect
end Criteria
