import Criteria.Proofs.Template.Plain
import Criteria.Select

/-!
# Row limits

The clauses by which a statement keeps a window of its rows, what they mean, and how they are read
back from the text of the statement. Apart from `TOP` they are the last thing in it, so they are
read from its end: a number is told by the words before it, whatever the query itself says.
-/

namespace Criteria

/-- A clause, or a pair of clauses, that keeps some of the rows. -/
inductive RowLimit where
  | limit (count : Nat) (skipped : Option Nat)
  | top (count : Nat)
  | fetch (skipped count : Nat)
  /-- The rows with numbers between two others, these included. -/
  | numbered (first last : Nat)
  /-- The rows up to a number, and of these the ones behind another number. -/
  | capped (last skipped : Nat)
deriving DecidableEq

namespace RowLimit

variable {α : Type}

/-- The rows that are left. The rows are numbered from one. -/
def rows : RowLimit → List α → List α
  | limit count skipped, rows => (rows.drop (skipped.getD 0)).take count
  | top count, rows => rows.take count
  | fetch skipped count, rows => (rows.drop skipped).take count
  | numbered first last, rows =>
    ((rows.zipIdx 1).filter fun r => first ≤ r.2 && r.2 ≤ last).map (·.1)
  | capped last skipped, rows =>
    (((rows.zipIdx 1).filter fun r => r.2 ≤ last).filter fun r => skipped < r.2).map (·.1)

/-- Rows that are numbered from anywhere, kept by their numbers. -/
theorem filter_zipIdx (rows : List α) (start first last : Nat) :
    ((rows.zipIdx start).filter fun r => first ≤ r.2 && r.2 ≤ last).map (·.1) =
      (rows.drop (first - start)).take (last + 1 - max first start) := by
  induction rows generalizing start with
  | nil => simp
  | cons a rows ih =>
    rw [List.zipIdx_cons, List.filter_cons]
    have next := ih (start + 1)
    rcases Nat.lt_or_ge start first with before | inside
    · have skip : first - start = (first - (start + 1)) + 1 := by omega
      have same : max first start = max first (start + 1) := by omega
      simpa [Nat.not_le.mpr before, skip, same] using next
    · rcases Nat.lt_or_ge last start with behind | within
      · have emptyNext : last + 1 - max first (start + 1) = 0 := by omega
        have emptyHere : last + 1 - max first start = 0 := by omega
        rw [emptyNext] at next
        simpa [Nat.not_le.mpr behind, emptyHere] using next
      · have all : first - start = 0 := by omega
        have all' : first - (start + 1) = 0 := by omega
        have more : last + 1 - start = (last + 1 - max first (start + 1)) + 1 := by omega
        rw [all'] at next
        simpa [inside, within, all, more] using next

theorem rows_numbered (rows : List α) (offset limit : Nat) :
    (numbered (offset + 1) (offset + limit)).rows rows = (rows.drop offset).take limit := by
  have count : offset + limit + 1 - max (offset + 1) 1 = limit := by omega
  rw [RowLimit.rows, filter_zipIdx, count, Nat.add_sub_cancel]

theorem rows_capped (rows : List α) (offset limit : Nat) :
    (capped (offset + limit) offset).rows rows = (rows.drop offset).take limit := by
  rw [← rows_numbered, RowLimit.rows, RowLimit.rows, List.filter_filter]
  rfl

/-! Reading. The text is given from its last character on. -/

/-- The number at the end of a text with given words before it, and what stands before these. -/
def numberBehind? (words : String) (text : List Char) : Option (Nat × List Char) :=
  let digits := text.takeWhile Char.isDigit
  match Text.dropLead? words.toList.reverse (text.drop digits.length) with
  | some before =>
    if digits.isEmpty then none else some (Nat.ofDigitChars 10 digits.reverse 0, before)
  | none => none

def readLimit? (text : List Char) : Option RowLimit :=
  match numberBehind? "\nOFFSET " text with
  | some (skipped, text) =>
    (numberBehind? "\nLIMIT " text).map fun count => .limit count.1 (some skipped)
  | none => (numberBehind? "\nLIMIT " text).map fun count => .limit count.1 none

def readFetch? (text : List Char) : Option RowLimit := do
  let text ← Text.dropLead? " ROWS ONLY".toList.reverse text
  let (count, text) ← numberBehind? " ROWS\nFETCH NEXT " text
  let (skipped, _) ← numberBehind? "\nOFFSET " text
  return .fetch skipped count

def readNumbered? (rowNumber : String) (text : List Char) : Option RowLimit := do
  let text ← Text.dropLead? ("\nORDER BY " ++ rowNumber).toList.reverse text
  let (last, text) ← numberBehind? " AND " text
  let (first, _) ← numberBehind? ("\nWHERE " ++ rowNumber ++ " BETWEEN ") text
  return .numbered first last

def readCapped? (rowNumber : String) (text : List Char) : Option RowLimit := do
  let (skipped, text) ← numberBehind? ("\n)\nWHERE " ++ rowNumber ++ " > ") text
  let (last, _) ← numberBehind? "\nWHERE ROWNUM <= " text
  return .capped last skipped

/-- The number at the front, where the text is given from its first character on. -/
def readTop? (text : List Char) : Option RowLimit :=
  let behind := (Text.dropLead? "SELECT DISTINCT TOP (".toList text).or
    (Text.dropLead? "SELECT TOP (".toList text)
  match behind with
  | none => none
  | some text =>
    let digits := text.takeWhile Char.isDigit
    if digits.isEmpty then none else some (.top (Nat.ofDigitChars 10 digits 0))

/-- The row limit in a statement of a pager. It is given how the row number is written, and whether
the query has an order, without which a page has no `OFFSET`. -/
def read? (pager : Pager) (rowNumber : String) (ordered : Bool) (sql : String) :
    Option RowLimit :=
  let text := sql.toList.reverse
  match pager with
  | .limitOffset => readLimit? text
  | .offsetFetch => (if ordered then readFetch? text else none).or (readTop? sql.toList)
  | .rowNumber => readNumbered? rowNumber text
  | .rownum => readCapped? rowNumber text

/-- The words do not end in a digit, so that a number behind them stands for itself. -/
def Introduces (words : String) : Prop :=
  ∃ c before, words.toList.reverse = c :: before ∧ c.isDigit = false

theorem introduces_append (s : String) {t : String} (h : Introduces t) : Introduces (s ++ t) := by
  obtain ⟨c, before, text, stop⟩ := h
  exact ⟨c, before ++ s.toList.reverse, by simp [text], stop⟩

theorem takeWhile_digits {digits rest : List Char} {c : Char}
    (all : ∀ a ∈ digits, a.isDigit = true) (stop : c.isDigit = false) :
    (digits ++ c :: rest).takeWhile Char.isDigit = digits := by
  rw [List.takeWhile_append_of_pos all, List.takeWhile_cons, stop]
  simp

/-- What is read at the end of a text that ends in a number depends on the words before it. -/
theorem numberBehind?_append_repr {words others : String} (introduces : Introduces others)
    (front : String) (n : Nat) :
    numberBehind? words (front ++ (others ++ n.repr)).toList.reverse =
      (Text.dropLead? words.toList.reverse (front ++ others).toList.reverse).map fun before =>
        (n, before) := by
  obtain ⟨c, before, text, stop⟩ := introduces
  have digits : ∀ a ∈ n.repr.toList.reverse, a.isDigit = true := fun a ha =>
    Template.isDigit_of_mem_repr (List.mem_reverse.mp ha)
  have shape : (front ++ (others ++ n.repr)).toList.reverse =
      n.repr.toList.reverse ++ c :: (before ++ front.toList.reverse) := by simp [text]
  have shape' : (front ++ others).toList.reverse = c :: (before ++ front.toList.reverse) := by
    simp [text]
  have filled : n.repr.toList.reverse.isEmpty = false := by simp
  have value : Nat.ofDigitChars 10 n.repr.toList.reverse.reverse 0 = n := by simp
  rw [shape, shape']
  simp only [numberBehind?, takeWhile_digits digits stop, List.drop_left, filled, value]
  cases Text.dropLead? words.toList.reverse (c :: (before ++ front.toList.reverse)) <;> rfl

theorem dropLead?_reverse (front words : String) :
    Text.dropLead? words.toList.reverse (front ++ words).toList.reverse =
      some front.toList.reverse :=
  Text.dropLead?_eq_some_iff.mpr (by simp)

/-- A number is read back behind its words. -/
theorem numberBehind?_repr {words : String} (introduces : Introduces words) (front : String)
    (n : Nat) :
    numberBehind? words (front ++ (words ++ n.repr)).toList.reverse =
      some (n, front.toList.reverse) := by
  rw [numberBehind?_append_repr introduces, dropLead?_reverse]
  rfl

theorem readLimit?_first (front : String) (count : Nat) :
    readLimit? (front ++ ("\nLIMIT " ++ count.repr)).toList.reverse = some (.limit count none) := by
  have limit : Introduces "\nLIMIT " := ⟨' ', _, rfl, by decide⟩
  have other : Text.dropLead? "\nOFFSET ".toList.reverse (front ++ "\nLIMIT ").toList.reverse =
      none := by
    rw [String.toList_append, List.reverse_append]
    rfl
  rw [readLimit?, numberBehind?_append_repr limit, other, numberBehind?_repr limit]
  rfl

theorem readLimit?_behind (front : String) (count skipped : Nat) :
    readLimit? (front ++ ("\nLIMIT " ++ count.repr) ++
      ("\nOFFSET " ++ skipped.repr)).toList.reverse = some (.limit count (some skipped)) := by
  have limit : Introduces "\nLIMIT " := ⟨' ', _, rfl, by decide⟩
  have offset : Introduces "\nOFFSET " := ⟨' ', _, rfl, by decide⟩
  simp only [readLimit?, numberBehind?_repr offset, numberBehind?_repr limit, Option.map_some]

theorem readFetch?_behind (front : String) (skipped count : Nat) :
    readFetch? (front ++ ("\nOFFSET " ++ skipped.repr) ++ (" ROWS\nFETCH NEXT " ++ count.repr) ++
      " ROWS ONLY").toList.reverse = some (.fetch skipped count) := by
  have offset : Introduces "\nOFFSET " := ⟨' ', _, rfl, by decide⟩
  have next : Introduces " ROWS\nFETCH NEXT " := ⟨' ', _, rfl, by decide⟩
  simp only [readFetch?, dropLead?_reverse, Option.bind_eq_bind, Option.bind_some,
    numberBehind?_repr next, numberBehind?_repr offset, Option.pure_def]

/-- Where the text ends in the direction of an order, nothing has been fetched. -/
theorem readFetch?_eq_none (front : String) (descending : Bool) :
    readFetch? (front ++ (if descending then " DESC" else " ASC")).toList.reverse = none := by
  rw [readFetch?, String.toList_append, List.reverse_append]
  cases descending <;> rfl

theorem readNumbered?_behind (front rowNumber : String) (first last : Nat) :
    readNumbered? rowNumber (front ++ ("\nWHERE " ++ rowNumber ++ " BETWEEN " ++ first.repr) ++
      (" AND " ++ last.repr) ++ ("\nORDER BY " ++ rowNumber)).toList.reverse =
      some (.numbered first last) := by
  have between : Introduces ("\nWHERE " ++ rowNumber ++ " BETWEEN ") :=
    introduces_append _ ⟨' ', _, rfl, by decide⟩
  have conj : Introduces " AND " := ⟨' ', _, rfl, by decide⟩
  simp only [readNumbered?, dropLead?_reverse, Option.bind_eq_bind, Option.bind_some,
    numberBehind?_repr conj, numberBehind?_repr between, Option.pure_def]

theorem readCapped?_behind (front rowNumber : String) (last skipped : Nat) :
    readCapped? rowNumber (front ++ ("\nWHERE ROWNUM <= " ++ last.repr) ++
      ("\n)\nWHERE " ++ rowNumber ++ " > " ++ skipped.repr)).toList.reverse =
      some (.capped last skipped) := by
  have cap : Introduces "\nWHERE ROWNUM <= " := ⟨' ', _, rfl, by decide⟩
  have behind : Introduces ("\n)\nWHERE " ++ rowNumber ++ " > ") :=
    introduces_append _ ⟨' ', _, rfl, by decide⟩
  simp only [readCapped?, Option.bind_eq_bind, Option.bind_some, numberBehind?_repr behind,
    numberBehind?_repr cap, Option.pure_def]

theorem readTop?_front (distinct : Bool) (count : Nat) (behind : String) :
    readTop? ((if distinct then "SELECT DISTINCT" else "SELECT") ++ " TOP (" ++ count.repr ++
      (")" ++ behind)).toList = some (.top count) := by
  have run : (count.repr.toList ++ ')' :: behind.toList).takeWhile Char.isDigit =
      count.repr.toList :=
    takeWhile_digits (fun a ha => Template.isDigit_of_mem_repr ha) (by decide)
  have filled : count.repr.toList.isEmpty = false := by simp
  have value : Nat.ofDigitChars 10 count.repr.toList 0 = count := by simp
  have text : ∀ words : String, (words ++ " TOP (" ++ count.repr ++ (")" ++ behind)).toList =
      (words ++ " TOP (").toList ++ (count.repr.toList ++ ')' :: behind.toList) := by
    intro words
    simp
  rw [text]
  generalize count.repr.toList ++ ')' :: behind.toList = rest at run
  cases distinct with
  | true =>
    have front : Text.dropLead? "SELECT DISTINCT TOP (".toList
        (("SELECT DISTINCT" ++ " TOP (").toList ++ rest) = some rest :=
      Text.dropLead?_eq_some_iff.mpr rfl
    simp only [readTop?, if_true, front, Option.some_or, run, filled, value]
    rfl
  | false =>
    have front : Text.dropLead? "SELECT TOP (".toList (("SELECT" ++ " TOP (").toList ++ rest) =
        some rest := Text.dropLead?_eq_some_iff.mpr rfl
    have other : Text.dropLead? "SELECT DISTINCT TOP (".toList
        (("SELECT" ++ " TOP (").toList ++ rest) = none := rfl
    simp only [readTop?, Bool.false_eq_true, if_false, other, front, Option.none_or, run, filled,
      value]

end RowLimit
end Criteria
