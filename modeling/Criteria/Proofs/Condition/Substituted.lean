import Criteria.Proofs.Condition.Returned
import Criteria.Proofs.Operator.Slotted

/-!
# What is substituted into the text of a condition

Operators are looked up when a condition is written, and by then they may have been replaced by
others that take fewer or more values than they did when the condition was made. The text and the
parameters still agree: what is put into the text are the parameters, as long as each comparison
has a second value if its operator now asks for one. If one has none, the text fails for that. The
only other thing that it can fail for is a number that has too many digits to be written.
-/

namespace Criteria

open Template (Part substituted)

namespace Condition

mutual

/-- The comparisons in a condition, each by its operator and its second parameter. -/
def comparisons : Condition → List (String × Option Parameter)
  | comparison _ operator _ second => [(operator, second)]
  | membership _ _ _ _ => []
  | group _ _ conditions => comparisonsOfAll conditions
  | negation _ condition => comparisons condition

def comparisonsOfAll : List Condition → List (String × Option Parameter)
  | [] => []
  | d :: rest => comparisons d ++ comparisonsOfAll rest

end

theorem mem_comparisonsOfAll {conditions : List Condition} {leaf : String × Option Parameter} :
    leaf ∈ comparisonsOfAll conditions ↔ ∃ d ∈ conditions, leaf ∈ d.comparisons := by
  induction conditions with
  | nil => simp [comparisonsOfAll]
  | cons d conditions ih => simp [comparisonsOfAll, ih]

/-- What holds of all comparisons in some conditions. -/
theorem forall_comparisonsOfAll {conditions : List Condition}
    {holds : String × Option Parameter → Prop} :
    (∀ leaf ∈ comparisonsOfAll conditions, holds leaf) ↔
      ∀ d ∈ conditions, ∀ leaf ∈ d.comparisons, holds leaf := by
  constructor
  · exact fun all d hd leaf mem => all leaf (mem_comparisonsOfAll.mpr ⟨d, hd, mem⟩)
  · intro all leaf mem
    obtain ⟨d, hd, mem⟩ := mem_comparisonsOfAll.mp mem
    exact all d hd leaf mem

mutual

/-- What is to be put into the text of a condition, from left to right. A second value that is asked
for may be missing. -/
def asked (table : OperatorTable) : Condition → List (Option Parameter)
  | comparison _ operator first second =>
    match table.find? operator with
    | some op => compared op first second
    | none => []
  | membership _ _ items _ => items.map some
  | group _ _ conditions => askedOfAll table conditions
  | negation _ condition => asked table condition

def askedOfAll (table : OperatorTable) : List Condition → List (Option Parameter)
  | [] => []
  | d :: rest => asked table d ++ askedOfAll table rest

end

theorem asked_comparison {table : OperatorTable} {c : Command} {operator : String} {op : Operator}
    {first : Parameter} {second : Option Parameter} (known : table.find? operator = some op) :
    (comparison c operator first second).asked table = compared op first second := by
  rw [asked, known]

/-- The texts of what is asked for, up to the first of it that is missing or that has none. -/
def textsOfAsked (given : List (Option Parameter)) : Except Error (List String) :=
  given.mapM fun p => required p >>= Parameter.text

/-- What is asked for first is written first, and so are its failures. -/
theorem textsOfAsked_append (given others : List (Option Parameter)) :
    textsOfAsked (given ++ others) = do
      return (← textsOfAsked given) ++ (← textsOfAsked others) :=
  List.mapM_append

/-- All operators in the condition are there. -/
def Uses (table : OperatorTable) (d : Condition) : Prop :=
  ∀ leaf ∈ d.comparisons, (table.find? leaf.1).isSome = true

/-- Each comparison with an operator that takes two values has a second one. -/
def Complete (table : OperatorTable) (d : Condition) : Prop :=
  ∀ leaf ∈ d.comparisons, ∀ op, table.find? leaf.1 = some op → op.arity = 2 →
    leaf.2.isSome = true

theorem uses_group {table : OperatorTable} {c : Command} {connective : Connective}
    {conditions : List Condition} :
    (group c connective conditions).Uses table ↔ ∀ d ∈ conditions, d.Uses table :=
  forall_comparisonsOfAll

theorem complete_group {table : OperatorTable} {c : Command} {connective : Connective}
    {conditions : List Condition} :
    (group c connective conditions).Complete table ↔ ∀ d ∈ conditions, d.Complete table :=
  forall_comparisonsOfAll

/-- The values that an operator is given: none, the first or both. -/
inductive Takes (op : Operator) (first : Parameter) : Option Parameter → List Parameter → Prop
  | none {second : Option Parameter} (arity : op.arity = 0) : Takes op first second []
  | one {second : Option Parameter} (arity : op.arity = 1) : Takes op first second [first]
  | both {second : Parameter} (arity : op.arity = 2) : Takes op first (some second) [first, second]

mutual

/-- A condition reads as a text into which the texts of some parameters have been put, one condition
after the other. -/
inductive Writes (table : OperatorTable) : Condition → String → List Parameter → Prop
  | comparison {c : Command} {operator : String} {op : Operator} {parts : List Part}
      {first : Parameter} {second : Option Parameter} {values : List Parameter}
      {texts : List String} (known : table.find? operator = some op) (reads : op.ReadsAs parts)
      (taken : Takes op first second values) (shown : values.mapM Parameter.text = .ok texts) :
      Writes table (.comparison c operator first second)
        ("(" ++ substituted parts (first.column :: texts) ++ ")") values
  | membership {c : Command} {column : Option String} {items : List Parameter} {negated : Bool}
      {texts : List String} (shown : items.mapM Parameter.text = .ok texts) :
      Writes table (.membership c column items negated) (listText column texts negated) items
  | group {c : Command} {connective : Connective} {conditions : List Condition}
      {texts : List String} {values : List Parameter}
      (each : WritesAll table conditions texts values) :
      Writes table (.group c connective conditions) (joined connective texts) values
  | negation {c : Command} {condition : Condition} {text : String} {values : List Parameter}
      (inner : Writes table condition text values) :
      Writes table (.negation c condition) (negated text) values

inductive WritesAll (table : OperatorTable) : List Condition → List String → List Parameter → Prop
  | nil : WritesAll table [] [] []
  | cons {d : Condition} {rest : List Condition} {text : String} {texts : List String}
      {values others : List Parameter} (first : Writes table d text values)
      (behind : WritesAll table rest texts others) :
      WritesAll table (d :: rest) (text :: texts) (values ++ others)

end

mutual

/-- Nothing is put into a text that is empty. -/
theorem eq_nil_of_writes {table : OperatorTable} {d : Condition} {text : String}
    {values : List Parameter} (h : d.Writes table text values) (empty : text = "") : values = [] := by
  cases h with
  | comparison => simp [← String.toList_inj] at empty
  | membership shown =>
    have blank := listText_eq_empty_iff.mp empty
    have length := length_of_mapM_ok shown
    exact List.eq_nil_of_length_eq_zero (by rw [← length, blank, List.length_nil])
  | group each => exact eq_nil_of_writesAll each (joined_eq_empty_iff.mp empty)
  | negation inner => exact eq_nil_of_writes inner (negated_eq_empty_iff.mp empty)

theorem eq_nil_of_writesAll {table : OperatorTable} {conditions : List Condition}
    {texts : List String} {values : List Parameter} (h : WritesAll table conditions texts values)
    (empty : ∀ t ∈ texts, t = "") : values = [] := by
  cases h with
  | nil => rfl
  | cons first behind =>
    obtain ⟨own, others⟩ := List.forall_mem_cons.mp empty
    rw [eq_nil_of_writes first own, eq_nil_of_writesAll behind others]
    rfl

end

section Outcome

variable {table : OperatorTable}

/-- An operator that takes two values at most takes what it compares with. -/
theorem takes_of_compared {op : Operator} {first : Parameter} {second : Option Parameter}
    {values : List Parameter} (few : op.arity = 0 ∨ op.arity = 1 ∨ op.arity = 2)
    (all : compared op first second = values.map some) : Takes op first second values := by
  rcases few with arity | arity | arity
  · rw [compared_of_zero arity, eq_comm, List.map_eq_nil_iff] at all
    exact all ▸ .none arity
  · rw [compared_of_one arity] at all
    obtain ⟨p, rfl, ⟨⟩⟩ := List.map_eq_singleton_iff.mp all.symm
    exact .one arity
  · rw [compared_of_two arity] at all
    obtain ⟨p, rest, rfl, ⟨⟩, others⟩ := List.map_eq_cons_iff.mp all.symm
    obtain ⟨q, rfl, rfl⟩ := List.map_eq_singleton_iff.mp others
    exact .both arity

theorem length_of_takes {op : Operator} {first : Parameter} {second : Option Parameter}
    {values : List Parameter} (taken : Takes op first second values) :
    op.arity = values.length ∧ values.length ≤ 2 := by
  cases taken with
  | none arity => exact ⟨arity, by simp⟩
  | one arity => exact ⟨arity, by simp⟩
  | both arity => exact ⟨arity, by simp⟩

mutual

/-- A condition is complete when nothing is missing of what is to be put into its text. -/
theorem complete_iff_asked (slotted : table.IsSlotted) :
    (d : Condition) → d.Uses table → (d.Complete table ↔ none ∉ d.asked table)
  | comparison c operator first second, uses => by
    obtain ⟨op, known⟩ := Option.isSome_iff_exists.mp (uses (operator, second) List.mem_cons_self)
    have few := (slotted operator op known).1
    have own : (comparison c operator first second).Complete table ↔
        (op.arity = 2 → second.isSome = true) := by
      refine ⟨fun all => all (operator, second) List.mem_cons_self op known, ?_⟩
      intro needed leaf mem other found two
      obtain rfl := List.mem_singleton.mp mem
      obtain rfl : op = other := Option.some.inj (known.symm.trans found)
      exact needed two
    rw [own, asked_comparison known]
    rcases few with arity | arity | arity
    · simp [compared_of_zero arity, arity]
    · simp [compared_of_one arity, arity]
    · cases second <;> simp [compared_of_two arity, arity]
  | membership _ _ items _, _ => by
    refine iff_of_true (fun _ mem => absurd mem List.not_mem_nil) ?_
    simp [asked]
  | group _ _ conditions, uses => by
    rw [complete_group, asked]
    exact completeAll_iff_asked slotted conditions (uses_group.mp uses)
  | negation _ condition, uses => complete_iff_asked slotted condition uses

theorem completeAll_iff_asked (slotted : table.IsSlotted) :
    (conditions : List Condition) → (∀ d ∈ conditions, d.Uses table) →
      ((∀ d ∈ conditions, d.Complete table) ↔ none ∉ askedOfAll table conditions)
  | [], _ => iff_of_true nofun nofun
  | d :: rest, uses => by
    obtain ⟨own, others⟩ := List.forall_mem_cons.mp uses
    rw [List.forall_mem_cons, askedOfAll, List.mem_append, not_or,
      complete_iff_asked slotted d own, completeAll_iff_asked slotted rest others]

end

/-- What happens to a condition that is written: it has a text and parameters, which are what was
asked for and were put into it, or it fails with the first of this that cannot be put into it. -/
def Settled (table : OperatorTable) (d : Condition) : Prop :=
  (∃ text given texts, d.text table = .ok text ∧ d.parameters table = .ok given ∧
      d.asked table = (given.getD []).map some ∧ textsOfAsked (d.asked table) = .ok texts ∧
      d.Writes table text (given.getD [])) ∨
    ∃ e, d.text table = .error e ∧ textsOfAsked (d.asked table) = .error e

/-- The same for conditions in a row. -/
def SettledAll (table : OperatorTable) (conditions : List Condition) : Prop :=
  (∃ texts values shown, textsWith table Parameter.text conditions = .ok texts ∧
      parametersOfAll table conditions = .ok values ∧
      askedOfAll table conditions = values.map some ∧
      textsOfAsked (askedOfAll table conditions) = .ok shown ∧
      WritesAll table conditions texts values) ∨
    ∃ e, textsWith table Parameter.text conditions = .error e ∧
      textsOfAsked (askedOfAll table conditions) = .error e

theorem settled_comparison (slotted : table.IsSlotted) {c : Command} {operator : String}
    {first : Parameter} {second : Option Parameter}
    (uses : (comparison c operator first second).Uses table) :
    (comparison c operator first second).Settled table := by
  obtain ⟨op, known⟩ := Option.isSome_iff_exists.mp (uses (operator, second) List.mem_cons_self)
  obtain ⟨few, parts, reads⟩ := slotted operator op known
  have found : table.get operator = .ok op := OperatorTable.get_eq_ok_iff.mpr known
  rw [Settled, asked_comparison known]
  cases written : textsOfAsked (compared op first second) with
  | error e =>
    refine .inr ⟨e, ?_, rfl⟩
    rw [text, textWith, comparisonText, found, ok_bind, ← textsOfAsked, written]
    rfl
  | ok texts =>
    obtain ⟨values, all, shown⟩ := eq_map_some_of_shown written
    have taken := takes_of_compared few all
    have comparands := comparands_eq_ok_iff.mpr all
    obtain ⟨arity, small⟩ := length_of_takes taken
    have length := length_of_mapM_ok shown
    have room : 2 ≤ Template.countLimit := by decide
    have rendered : op.render first.column texts = .ok (substituted parts (first.column :: texts)) :=
      Operator.render_readsAs reads (by omega) (by omega)
    have whole : (comparison c operator first second).text table =
        .ok ("(" ++ substituted parts (first.column :: texts) ++ ")") := by
      rw [text, textWith, comparisonText_of_comparands found comparands, shown, ok_bind, rendered]
      rfl
    have writes : Writes table (comparison c operator first second) _ values :=
      .comparison known reads taken shown
    by_cases bare : op.arity = 0
    · obtain rfl : values = [] := List.eq_nil_of_length_eq_zero (by omega)
      refine .inl ⟨_, none, texts, whole, ?_, all, rfl, writes⟩
      rw [parameters, found, ok_bind, if_pos bare]
      rfl
    · refine .inl ⟨_, some values, texts, whole, ?_, all, rfl, writes⟩
      rw [parameters, found, ok_bind, if_neg bare, comparands]
      rfl

theorem settled_membership {c : Command} {column : Option String} {items : List Parameter}
    {negated : Bool} : (membership c column items negated).Settled table := by
  have same : textsOfAsked ((membership c column items negated).asked table) =
      items.mapM Parameter.text := mapM_shown items
  rw [Settled, same]
  cases shown : items.mapM Parameter.text with
  | error e =>
    refine .inr ⟨e, ?_, rfl⟩
    rw [text, textWith, membershipText, shown]
    rfl
  | ok texts =>
    refine .inl ⟨listText column texts negated, some items, texts, ?_, rfl, rfl, rfl,
      .membership shown⟩
    rw [text, textWith, membershipText, shown]
    rfl

mutual

theorem settled_of_uses (slotted : table.IsSlotted) :
    (d : Condition) → d.Uses table → d.Settled table
  | comparison _ _ _ _, uses => settled_comparison slotted uses
  | membership _ _ _ _, _ => settled_membership
  | group _ connective conditions, uses => by
    rw [Settled, asked]
    rcases settled_of_usesAll slotted conditions (uses_group.mp uses) with
      ⟨texts, values, shown, written, taken, all, asked, each⟩ | ⟨e, failed, asked⟩
    · refine .inl ⟨joined connective texts, some values, shown, ?_, ?_, all, asked, .group each⟩
      · rw [text, textWith, written]
        rfl
      · rw [parameters, taken]
        rfl
    · refine .inr ⟨e, ?_, asked⟩
      rw [text, textWith, failed]
      rfl
  | negation c condition, uses => by
    rw [Settled, asked]
    rcases settled_of_uses slotted condition uses with
      ⟨inner, given, shown, written, taken, all, asked, writes⟩ | ⟨e, failed, asked⟩
    · have whole : (negation c condition).text table = .ok (negated inner) := by
        rw [text, textWith, ← text, written]
        rfl
      by_cases empty : inner = ""
      · rw [eq_nil_of_writes writes empty] at all writes
        refine .inl ⟨_, some [], shown, whole, ?_, all, asked, .negation writes⟩
        rw [parameters, written, ok_bind, if_pos empty]
        rfl
      · refine .inl ⟨_, given, shown, whole, ?_, all, asked, .negation writes⟩
        rw [parameters, written, ok_bind, if_neg empty, taken]
    · refine .inr ⟨e, ?_, asked⟩
      rw [text, textWith, ← text, failed]
      rfl

theorem settled_of_usesAll (slotted : table.IsSlotted) :
    (conditions : List Condition) → (∀ d ∈ conditions, d.Uses table) → SettledAll table conditions
  | [], _ => .inl ⟨[], [], [], rfl, rfl, rfl, rfl, .nil⟩
  | d :: rest, uses => by
    obtain ⟨own, others⟩ := List.forall_mem_cons.mp uses
    rw [SettledAll, askedOfAll, textsOfAsked_append]
    rcases settled_of_uses slotted d own with
      ⟨inner, given, shown, written, taken, all, asked, writes⟩ | ⟨e, failed, asked⟩
    · rcases settled_of_usesAll slotted rest others with
        ⟨texts, values, shownAll, writtenAll, takenAll, allOthers, askedAll, each⟩ |
          ⟨e, failed, askedAll⟩
      · refine .inl ⟨inner :: texts, given.getD [] ++ values, shown ++ shownAll, ?_, ?_, ?_, ?_,
          .cons writes each⟩
        · rw [textsWith, ← text, written, writtenAll]
          rfl
        · rw [parametersOfAll, written, takenAll, taken]
          by_cases empty : inner = ""
          · rw [ok_bind, if_pos empty, eq_nil_of_writes writes empty]
            rfl
          · rw [ok_bind, if_neg empty]
            rfl
        · rw [all, allOthers, List.map_append]
        · rw [asked, askedAll]
          rfl
      · refine .inr ⟨e, ?_, ?_⟩
        · rw [textsWith, ← text, written, failed]
          rfl
        · rw [asked, askedAll]
          rfl
    · refine .inr ⟨e, ?_, ?_⟩
      · rw [textsWith, ← text, failed]
        rfl
      · rw [asked]
        rfl

end

end Outcome
end Condition

namespace Session

/-- The operators in a condition were there when it was made, and so they still are. -/
theorem uses_of_constructed {actions : List Action} {admits : Command → Parameter → Prop}
    {d : Condition} (constructed : (after actions).Constructed admits d) :
    d.Uses (after actions).workspace.operators := by
  induction constructed with
  | @returned e d called _ parts made ih =>
    have ran := (consistent_after actions).ran e called
    rw [made] at ran
    cases Call.returns_of_run ran with
    | comparison made verbatim =>
      obtain ⟨op, found, -, rfl⟩ := Condition.ofParameters_ok made
      have found := OperatorTable.get_eq_ok_iff.mp found
      intro leaf mem
      obtain rfl := List.mem_singleton.mp mem
      refine known_after actions e called op.name ?_
      rw [(filed_after actions).met e called _ op found, found]
      rfl
    | membership verbatim => exact fun leaf mem => absurd mem List.not_mem_nil
    | group => exact Condition.uses_group.mpr ih
    | @negation own inner part => exact ih inner part

end Session

namespace Sample

/-! Operators that are registered again with another arity: `BETWEEN` with one value less, `IS_NULL`
with one more, and `EQUAL` with a second one that a comparison made before does not have. -/

def blank : Parameter := ⟨"id", .object, .null, false, "", "", 2⟩

def absent : Condition := .comparison command "IS_NULL" blank none

def grown : Condition :=
  .comparison command "BETWEEN" (bound "age" (.int 18) 0) (some (bound "age" (.int 65) 1))

def either : Condition := .group command .or [grown, absent]

def shortened : Condition :=
  .comparison command "EQUAL" { bound "id" (.int 7) 2 with origin := 3 } none

def revised : List Action :=
  [.openCommand command.backend command.stem, .call 0 between,
    .call 0 (.compare (some "id") "IS_NULL" [] none),
    .call 0 (.join .or [grown, absent] false),
    .call 0 (.compare (some "id") "EQUAL" [.int 7] none),
    .registerOperator "BETWEEN" "\x7b0\x7d > \x7b1\x7d" 1,
    .registerOperator "IS_NULL" "\x7b0\x7d = \x7b1\x7d" 1,
    .registerOperator "EQUAL" "\x7b0\x7d BETWEEN \x7b1\x7d AND \x7b2\x7d" 2]

theorem constructed_revised :
    (Session.after revised).Constructed (fun _ _ => True) either ∧
      (Session.after revised).Constructed (fun _ _ => True) shortened := by
  have first : (Session.after revised).Constructed (fun _ _ => True) grown :=
    .returned List.mem_cons_self (fun _ _ => trivial) nofun rfl
  have second : (Session.after revised).Constructed (fun _ _ => True) absent :=
    .returned (.tail _ List.mem_cons_self) (fun _ _ => trivial) nofun rfl
  constructor
  · refine .returned (.tail _ (.tail _ List.mem_cons_self)) (fun _ _ => trivial) ?_ rfl
    exact List.forall_mem_cons.mpr ⟨first, List.forall_mem_singleton.mpr second⟩
  · exact .returned (.tail _ (.tail _ (.tail _ List.mem_cons_self))) (fun _ _ => trivial) nofun rfl

end Sample

namespace Session

end Session
end Criteria
