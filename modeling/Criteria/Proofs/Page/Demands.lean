import Criteria.Dialect.BuiltIn
import Criteria.Proofs.Condition.Condensed
import Criteria.Proofs.Page.Text

/-!
# What a page needs

A page is cut when its index and its size make sense, the conditions of the query were built for
the dialect, and the query has an order where one is needed. This is asked for in a fixed order, and
the first thing that is missing is what the failure reports. What remains is the length of the
numbers that are written: an integer of too many digits has no text.
-/

namespace Criteria

/-- Something that a page needs, and the cause of failure if it is not given. -/
structure Demand where
  met : Bool
  cause : Error
  /-- What is reported besides a message. -/
  details : List (String × Detail)
  /-- The number that the message shows. -/
  shown : Option Int

namespace Pager

/-- The numbers that a pager writes for `limit` rows behind the first `offset`. -/
def numbers (pager : Pager) (offset limit : Nat) : List Nat :=
  match pager with
  | .limitOffset => [offset, limit]
  | .offsetFetch => [offset, limit]
  | .rowNumber => [offset + 1, offset + limit]
  | .rownum => [offset + limit, offset]

end Pager

namespace Demand

def failure (demand : Demand) : Error :=
  match demand.shown with
  | some n => Error.showing n demand.cause
  | none => demand.cause

def check (demand : Demand) : Except Error Unit :=
  if demand.met then .ok () else .error demand.failure

/-- The failure is one of paging and reports the details, unless the message cannot be written. -/
def Reports (demand : Demand) : Prop :=
  if ∀ n ∈ demand.shown, Numeral.Short n.natAbs then
    ∃ report, demand.failure.report? = some report ∧ report.kind = .paging ∧
      report.details = .ofList demand.details
  else demand.failure = .longNumber

def index (n : Int) : Demand where
  met := 0 ≤ n
  cause := .negativePage n
  details := [("page_index", .int n)]
  shown := some n

def size (n : Int) : Demand where
  met := 0 < n
  cause := .badPageSize n
  details := [("page_size", .int n)]
  shown := some n

/-- The condition was built for the dialect. -/
def builtFor (d : Dialect) (c : Condition) : Demand where
  met := c.command.dialect.name = d.name
  cause := .foreignDialect c.command.dialect.name d.name
  details := [("built_for", .text c.command.dialect.name), ("dialect", .text d.name)]
  shown := none

/-- Only an order can be reversed. -/
def reversible (q : Select) (reverse : Bool) : Demand where
  met := reverse = true → q.orderBy ≠ []
  cause := .nothingToReverse q.table
  details := [("table", .text q.table)]
  shown := none

/-- Rows are skipped by `OFFSET` only behind an order. -/
def ordered (d : Dialect) (q : Select) (index size : Int) : Demand where
  met := d.pager = .offsetFetch → 0 < index → q.orderBy ≠ []
  cause := .unorderedPage d.name (index * size)
  details := [("dialect", .text d.name), ("offset", .int (index * size))]
  shown := none

end Demand

namespace Dialect

/-- What a page needs, in the order in which it is asked for. -/
def demands (d : Dialect) (q : Select) (index size : Int) (reverse : Bool) : List Demand :=
  [.index index, .size size] ++ (q.filter.toList ++ q.having.toList).map (.builtFor d) ++
    [.reversible q reverse, .ordered d q index size]

end Dialect

namespace Demand

theorem reports_of_cause {demand : Demand} {message : String}
    (own : demand.cause.report? = Error.pagingReport message demand.details) : demand.Reports := by
  rw [Reports, failure]
  cases demand.shown with
  | none =>
    rw [if_pos nofun]
    exact ⟨_, own, rfl, rfl⟩
  | some n =>
    simp only [Error.showing, Option.mem_some_iff, forall_eq']
    by_cases short : Numeral.Short n.natAbs
    · rw [if_pos short, if_pos short]
      exact ⟨_, own, rfl, rfl⟩
    · rw [if_neg short, if_neg short]

theorem check_of_met {demand : Demand} (met : demand.met = true) : demand.check = .ok () :=
  if_pos met

theorem check_of_unmet {demand : Demand} (unmet : ¬ demand.met = true) :
    demand.check = .error demand.failure := if_neg unmet

/-- Of several demands the first one that is not met decides. -/
theorem forM_check (demands : List Demand) :
    forM demands check =
      match demands.find? (!·.met) with
      | some demand => .error demand.failure
      | none => .ok () := by
  induction demands with
  | nil => rfl
  | cons demand rest ih =>
    rw [List.forM_cons, check]
    cases met : demand.met with
    | false => simp [met, error_bind]
    | true => simpa [met, ok_bind] using ih

end Demand

namespace Pager

/-- A text with two numbers in it. -/
theorem integerText_bind (m n : Nat) (f : String → String → String) :
    (do
      let first ← integerText m
      let second ← integerText n
      return f first second) =
      if ∀ k ∈ [m, n], Numeral.Short k then .ok (f m.repr n.repr) else .error .longNumber := by
  have both : (∀ k ∈ [m, n], Numeral.Short k) ↔ Numeral.Short m ∧ Numeral.Short n := by
    rw [List.forall_mem_cons, List.forall_mem_singleton]
  change (ite (Numeral.Short m) (Except.ok m.repr) _ >>= fun first =>
    ite (Numeral.Short n) (Except.ok n.repr) _ >>= fun second => _) = _
  by_cases first : Numeral.Short m
  · by_cases second : Numeral.Short n
    · rw [if_pos first, if_pos second, if_pos (both.mpr ⟨first, second⟩)]
      rfl
    · rw [if_pos first, if_neg second, if_neg fun all => second (both.mp all).2]
      rfl
  · rw [if_neg first, if_neg fun all => first (both.mp all).1]
    rfl

/-- A pager that has the order it needs fails only on its numbers. -/
theorem render_of_body {pager : Pager} {operators : OperatorTable} {q : Select} {d : Dialect}
    {offset limit : Nat} {ordering : List OrderItem} {body : String}
    (rendered : q.body operators = .ok body)
    (ordered : pager = .offsetFetch → 0 < offset → OrderItem.clause ordering ≠ "") :
    pager.render operators q d offset limit ordering =
      if ∀ n ∈ pager.numbers offset limit, Numeral.Short n then
        .ok (pager.pageText q d offset limit body (OrderItem.clause ordering))
      else .error .longNumber := by
  cases pager with
  | limitOffset =>
    simp only [render, rendered, ok_bind]
    exact integerText_bind offset limit _
  | offsetFetch =>
    by_cases front : offset = 0
    · have zero : integerText (0 : Nat) = .ok "0" := rfl
      have both := integerText_bind 0 limit fun _ limited => Text.lines
        [q.keyword ++ " TOP (" ++ limited ++ ") " ++ q.selectList, body, OrderItem.clause ordering]
      rw [zero, ok_bind] at both
      simp only [render, rendered, front, if_true, ok_bind]
      exact both
    · have filled : OrderItem.clause ordering ≠ "" := ordered rfl (Nat.pos_of_ne_zero front)
      simp only [render, rendered, front, filled, if_false, ok_bind, pageText]
      exact integerText_bind offset limit _
  | rowNumber =>
    simp only [render, rendered, ok_bind]
    exact integerText_bind (offset + 1) (offset + limit) _
  | rownum =>
    simp only [render, rendered, ok_bind]
    exact integerText_bind (offset + limit) offset _

end Pager

namespace Select

variable {operators : OperatorTable} {q : Select}

theorem ordering_eq (q : Select) (reverse : Bool) :
    q.ordering reverse =
      if reverse = true → q.orderBy ≠ [] then
        .ok (if reverse then q.orderBy.map .reversed else q.orderBy)
      else .error (.nothingToReverse q.table) := by
  cases reverse with
  | false => simp [ordering]
  | true => cases items : q.orderBy <;> simp [ordering, items]

theorem conditionText_of_rendered {condition : Option Condition}
    (rendered : ∀ c ∈ condition, ∃ text, c.text operators = .ok text) :
    (∃ text, conditionText operators condition = .ok text) ∧
      ∃ given, conditionParameters operators condition = .ok given := by
  cases condition with
  | none => exact ⟨⟨"", rfl⟩, [], rfl⟩
  | some c =>
    obtain ⟨text, own⟩ := rendered c rfl
    obtain ⟨given, taken, -⟩ := Condition.parameters_of_text c own
    refine ⟨⟨text, own⟩, if text = "" then [] else given.getD [], ?_⟩
    rw [conditionParameters, own, ok_bind, taken]
    by_cases empty : text = ""
    · rw [if_pos empty, if_pos empty]
      rfl
    · rw [if_neg empty, if_neg empty]
      rfl

/-- A query whose conditions can be written can be written itself, and has bindings. -/
theorem body_of_rendered
    (rendered : ∀ c ∈ q.filter.toList ++ q.having.toList, ∃ text, c.text operators = .ok text) :
    (∃ body, q.body operators = .ok body) ∧ ∃ bindings, q.bindings operators = .ok bindings := by
  obtain ⟨⟨filter, hfilter⟩, first, hfirst⟩ := conditionText_of_rendered fun c own =>
    rendered c (List.mem_append_left _ (Option.mem_toList.mpr own))
  obtain ⟨⟨having, hhaving⟩, second, hsecond⟩ := conditionText_of_rendered fun c own =>
    rendered c (List.mem_append_right _ (Option.mem_toList.mpr own))
  constructor
  · rw [body, hfilter, ok_bind, hhaving]
    exact ⟨_, rfl⟩
  · simp only [bindings, parameters, hfirst, hsecond, ok_bind]
    exact ⟨_, rfl⟩

end Select

namespace Dialect

variable {d : Dialect} {operators : OperatorTable} {q : Select} {body : String}
  {bindings : Bindings} {index size : Int}

theorem requireDialect_eq (d : Dialect) (condition : Option Condition) :
    d.requireDialect condition = forM (condition.toList.map (.builtFor d)) Demand.check := by
  cases condition with
  | none => rfl
  | some c =>
    by_cases same : c.command.dialect.name = d.name
    · simp [requireDialect, Demand.check, Demand.builtFor, same]
    · simp [requireDialect, Demand.check, Demand.failure, Demand.builtFor, same]

/-- A pager first asks for the order that it needs. -/
theorem render_eq (rendered : q.body operators = .ok body) (index : Nat) {size : Nat}
    (positive : 0 < size) {ordering : List OrderItem} (own : ordering = [] ↔ q.orderBy = []) :
    d.pager.render operators q d (index * size) size ordering =
      (Demand.ordered d q index size).check >>= fun _ =>
        if ∀ n ∈ d.pager.numbers (index * size) size, Numeral.Short n then
          .ok (d.pager.pageText q d (index * size) size body (OrderItem.clause ordering))
        else .error .longNumber := by
  by_cases ordered : d.pager = .offsetFetch → 0 < (index : Int) → q.orderBy ≠ []
  · have met := @Demand.check_of_met (.ordered d q index size) (decide_eq_true ordered)
    rw [met, ok_bind]
    refine Pager.render_of_body rendered fun pager behind unordered => ?_
    have front : 0 < (index : Int) := Int.natCast_pos.mpr (Nat.pos_of_mul_pos_right behind)
    exact ordered pager front (own.mp (OrderItem.clause_eq_empty_iff.mp unordered))
  · have unmet := @Demand.check_of_unmet (.ordered d q index size)
      fun met => ordered (of_decide_eq_true met)
    obtain ⟨pager, unordered⟩ := Classical.not_imp.mp ordered
    obtain ⟨front, unsorted⟩ := Classical.not_imp.mp unordered
    have behind : index * size ≠ 0 :=
      Nat.ne_of_gt (Nat.mul_pos (Int.natCast_pos.mp front) positive)
    have clause : OrderItem.clause ordering = "" :=
      OrderItem.clause_eq_empty_iff.mpr (own.mpr (by simpa using unsorted))
    rw [unmet]
    simp only [pager, Pager.render, behind, clause, if_true, if_false]
    rfl

/-- A page is what its pager writes, once everything is given that the page needs. -/
theorem paginate_eq (rendered : q.body operators = .ok body)
    (bound : q.bindings operators = .ok bindings) (index size : Int) (reverse : Bool) :
    d.paginate operators q index size reverse =
      forM (d.demands q index size reverse) Demand.check >>= fun _ =>
        if ∀ n ∈ d.pager.numbers (index * size).toNat size.toNat, Numeral.Short n then
          .ok ⟨d.pager.pageText q d (index * size).toNat size.toNat body
            (OrderItem.clause (if reverse then q.orderBy.map .reversed else q.orderBy)),
            bindings, d.name⟩
        else .error .longNumber := by
  rw [demands, List.forM_append, List.forM_append, List.map_append, List.forM_append,
    ← requireDialect_eq, ← requireDialect_eq]
  simp only [List.forM_cons, List.forM_nil, bind_assoc, pure_bind]
  by_cases front : 0 ≤ index
  · by_cases positive : 0 < size
    · obtain ⟨i, rfl⟩ := Int.eq_ofNat_of_zero_le front
      obtain ⟨n, rfl⟩ := Int.eq_ofNat_of_zero_le (Int.le_of_lt positive)
      rw [Demand.check_of_met (decide_eq_true front), Demand.check_of_met (decide_eq_true positive),
        paginate, if_neg (by omega), if_neg (by omega), ← Int.natCast_mul, Int.toNat_natCast,
        Int.toNat_natCast, Select.ordering_eq]
      simp only [ok_bind]
      refine bind_congr fun _ => bind_congr fun _ => ?_
      by_cases reversible : reverse = true → q.orderBy ≠ []
      · have met := @Demand.check_of_met (.reversible q reverse) (decide_eq_true reversible)
        have own : (if reverse then q.orderBy.map .reversed else q.orderBy) = [] ↔
            q.orderBy = [] := by
          cases reverse <;> simp
        have pos : 0 < n := Int.natCast_pos.mp positive
        rw [met, if_pos reversible, ok_bind, ok_bind, render_eq rendered i pos own, bind_assoc]
        refine bind_congr fun _ => ?_
        rw [bound]
        by_cases short : ∀ m ∈ d.pager.numbers (i * n) n, Numeral.Short m
        · rw [if_pos short, if_pos short]
          rfl
        · rw [if_neg short, if_neg short]
          rfl
      · have unmet := @Demand.check_of_unmet (.reversible q reverse)
          fun met => reversible (of_decide_eq_true met)
        rw [unmet, if_neg reversible]
        rfl
    · have unmet := @Demand.check_of_unmet (.size size) fun met => positive (of_decide_eq_true met)
      rw [Demand.check_of_met (decide_eq_true front), unmet, paginate, if_neg (by omega),
        if_pos (by omega)]
      rfl
  · have unmet := @Demand.check_of_unmet (.index index) fun met => front (of_decide_eq_true met)
    rw [unmet, paginate, if_pos (by omega)]
    rfl

/-- What is asked for, in full. -/
theorem met_demands {reverse : Bool} :
    (∀ demand ∈ d.demands q index size reverse, demand.met = true) ↔
      0 ≤ index ∧ 0 < size ∧
      (∀ c ∈ q.filter.toList ++ q.having.toList, c.command.dialect.name = d.name) ∧
      (reverse = true → q.orderBy ≠ []) ∧
      (d.pager = .offsetFetch → 0 < index → q.orderBy ≠ []) := by
  rw [demands, List.forall_mem_append, List.forall_mem_append, List.forall_mem_map]
  simp only [List.forall_mem_cons, List.not_mem_nil, false_implies, implies_true, and_true,
    and_assoc, Demand.index, Demand.size, Demand.builtFor, Demand.reversible, Demand.ordered,
    decide_eq_true_iff]

theorem reports_of_mem {reverse : Bool} :
    ∀ demand ∈ d.demands q index size reverse, demand.Reports := by
  rw [demands, List.forall_mem_append, List.forall_mem_append, List.forall_mem_map]
  simp only [List.forall_mem_cons, List.not_mem_nil, false_implies, implies_true, and_true]
  exact ⟨⟨⟨Demand.reports_of_cause rfl, Demand.reports_of_cause rfl⟩,
    fun c _ => Demand.reports_of_cause rfl⟩, Demand.reports_of_cause rfl,
    Demand.reports_of_cause rfl⟩

/-- Exactly when a page is cut, and what the failure is otherwise: the first thing that is asked for
and not given is reported, and if all is given then a number is too long to be written. -/
theorem paginate_of_demands {reverse : Bool}
    (rendered : ∀ c ∈ q.filter.toList ++ q.having.toList, ∃ text, c.text operators = .ok text) :
    ((∃ page, d.paginate operators q index size reverse = .ok page) ↔
      (0 ≤ index ∧ 0 < size ∧
        (∀ c ∈ q.filter.toList ++ q.having.toList, c.command.dialect.name = d.name) ∧
        (reverse = true → q.orderBy ≠ []) ∧
        (d.pager = .offsetFetch → 0 < index → q.orderBy ≠ [])) ∧
      ∀ n ∈ d.pager.numbers (index * size).toNat size.toNat, Numeral.Short n) ∧
    (∀ demand, (d.demands q index size reverse).find? (!·.met) = some demand →
      d.paginate operators q index size reverse = .error demand.failure ∧ demand.Reports) ∧
    ((∀ demand ∈ d.demands q index size reverse, demand.met = true) →
      (∃ n ∈ d.pager.numbers (index * size).toNat size.toNat, ¬ Numeral.Short n) →
      d.paginate operators q index size reverse = .error .longNumber) := by
  obtain ⟨⟨body, written⟩, bindings, bound⟩ := Select.body_of_rendered rendered
  have whole := @paginate_eq d _ _ _ _ written bound index size reverse
  rw [Demand.forM_check] at whole
  have none_iff : (∀ demand ∈ d.demands q index size reverse, demand.met = true) ↔
      (d.demands q index size reverse).find? (!·.met) = none := by
    simp [List.find?_eq_none]
  rw [← met_demands, none_iff]
  refine ⟨?_, ?_, ?_⟩
  · cases first : (d.demands q index size reverse).find? (!·.met) with
    | some demand =>
      rw [first] at whole
      simp [whole, error_bind]
    | none =>
      rw [first, ok_bind] at whole
      by_cases short : ∀ n ∈ d.pager.numbers (index * size).toNat size.toNat, Numeral.Short n
      · rw [if_pos short] at whole
        exact ⟨fun _ => ⟨rfl, short⟩, fun _ => ⟨_, whole⟩⟩
      · rw [if_neg short] at whole
        simp [whole, short]
  · intro demand first
    rw [first, error_bind] at whole
    exact ⟨whole, reports_of_mem demand (List.mem_of_find?_eq_some first)⟩
  · rintro first ⟨n, written, long⟩
    rw [first, ok_bind, if_neg fun short => long (short n written)] at whole
    exact whole

/-- A condition without a text, which was built for another dialect all the same. -/
def hollow : Condition := .membership ⟨0, ⟨0, .sqlserver⟩, "p"⟩ (some "age") [] false

def unsorted : Select := ⟨"people", ["city"], some hollow, [], none, [], false⟩

theorem paginate_of_demands_unsorted :
    (∀ c ∈ unsorted.filter.toList ++ unsorted.having.toList, ∃ text, c.text .builtIn = .ok text) ∧
      (sqlserverce.paginate .builtIn unsorted 3 10 true =
          .error (.foreignDialect "sqlserver" "sqlserverce") ∧
        (Demand.builtFor sqlserverce hollow).Reports) ∧
      ∃ page, sqlserver.paginate .builtIn unsorted 3 10 false = .ok page := by
  have own : unsorted.filter.toList ++ unsorted.having.toList = [hollow] := rfl
  have rendered : ∀ c ∈ unsorted.filter.toList ++ unsorted.having.toList,
      ∃ text, c.text .builtIn = .ok text := by
    rw [own, List.forall_mem_singleton]
    exact ⟨"", rfl⟩
  have refused := (@paginate_of_demands sqlserverce _ _ 3 10 true rendered).2.1
    (.builtFor sqlserverce hollow) rfl
  refine ⟨rendered, refused, (paginate_of_demands rendered).1.mpr ⟨⟨?_, ?_, ?_, nofun, nofun⟩, ?_⟩⟩
  · decide
  · decide
  · rw [own, List.forall_mem_singleton]
    rfl
  · decide

def unfiltered : Select := ⟨"people", ["city"], none, [], none, [], false⟩

theorem met_unfiltered {size : Nat} (positive : 0 < size) :
    ∀ demand ∈ mysql.demands unfiltered 10 size false, demand.met = true :=
  met_demands.mpr ⟨by decide, Int.natCast_pos.mpr positive, nofun, nofun, nofun⟩

theorem paginate_unfiltered {size : Nat} (positive : 0 < size)
    (long : ¬ Numeral.Short (10 * size)) :
    mysql.paginate .builtIn unfiltered 10 size false = .error .longNumber := by
  have skipped : ((10 : Int) * size).toNat = 10 * size := by omega
  have first : (mysql.demands unfiltered 10 size false).find? (!·.met) = none := by
    simpa [List.find?_eq_none] using met_unfiltered positive
  rw [paginate_eq rfl rfl, Demand.forM_check, first, ok_bind, skipped]
  exact if_neg fun short => long (short _ List.mem_cons_self)

theorem lt_pow_of_length {n k : Nat} (positive : 0 < k) (short : n.repr.length ≤ k) :
    n < Nat.pow 10 k := (Nat.length_repr_le_iff positive).mp short

/-- A number of as many digits as can be written. -/
@[irreducible] def longest : Nat := Nat.pow 10 (Numeral.maxDigits - 1)

theorem longest_pos : 0 < longest := by
  have all (k : Nat) : 0 < Nat.pow 10 k := Nat.pow_pos (by decide)
  unfold longest
  exact all (Numeral.maxDigits - 1)

theorem longest_mul : longest * 10 = Nat.pow 10 Numeral.maxDigits := by
  have all (k : Nat) (positive : 0 < k) : Nat.pow 10 (k - 1) * 10 = Nat.pow 10 k :=
    Nat.pow_pred_mul positive
  unfold longest
  exact all Numeral.maxDigits (by decide)

theorem not_short_mul_longest : ¬ Numeral.Short (10 * longest) := by
  intro short
  have below := lt_pow_of_length (by decide) short
  rw [Nat.mul_comm] at below
  exact Nat.ne_of_lt below longest_mul

/-- All that is asked for is given, and the number of rows to be skipped is too long. -/
theorem not_paginate_of_met :
    (0 ≤ (10 : Int) ∧ 0 < (longest : Int) ∧
      (∀ c ∈ unfiltered.filter.toList ++ unfiltered.having.toList,
        c.command.dialect.name = mysql.name) ∧
      (false = true → unfiltered.orderBy ≠ []) ∧
      (mysql.pager = .offsetFetch → 0 < (10 : Int) → unfiltered.orderBy ≠ [])) ∧
    mysql.paginate .builtIn unfiltered 10 longest false = .error .longNumber ∧
      Error.longNumber.report? = none :=
  ⟨met_demands.mp (met_unfiltered longest_pos),
    paginate_unfiltered longest_pos not_short_mul_longest, rfl⟩

end Dialect
end Criteria
