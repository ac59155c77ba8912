import Criteria.Proofs.Bindings
import Criteria.Proofs.Operator.Entries
import Criteria.Proofs.Request

/-!
# The operators as a store

What is registered as an operator, accepted or not, and what is found afterwards: under each name
the operator that has been accepted last. The sorted views list what can be found, and nothing else.
-/

namespace Criteria

namespace Operator

/-- The template can be read to its end, and its fields are 0 and the numbers from 1 to the
arity. -/
def IsAcceptable (op : Operator) : Prop :=
  ∃ slots, Template.slots op.template = .ok slots ∧ "0" ∈ slots ∧
    (slots.filter (· ≠ "0")).Perm (numbersTo op.arity.toNat)

theorem define_ok_iff {name template : String} {arity : Int} {op : Operator} :
    define name template arity = .ok op ↔ op = ⟨name, template, arity⟩ ∧ op.IsAcceptable := by
  rw [define_eq_ok_iff]
  constructor
  · rintro ⟨slots, read, column, numbers, rfl⟩
    exact ⟨rfl, slots, read, column, areNumbersTo_iff.mp numbers⟩
  · rintro ⟨rfl, slots, read, column, numbers⟩
    exact ⟨slots, read, column, areNumbersTo_iff.mpr numbers, rfl⟩

end Operator

theorem Request.isAcceptable_of_accepted? {r : Request} {op : Operator}
    (made : r.accepted? = some op) : op.IsAcceptable := by
  cases r with
  | act action =>
    cases action with
    | registerOperator name template arity =>
      simp only [accepted?] at made
      cases defined : Operator.define name template arity with
      | error e =>
        rw [defined] at made
        cases made
      | ok new =>
        rw [defined] at made
        cases made
        exact (Operator.define_ok_iff.mp defined).2
    | _ => cases made
  | _ => cases made

namespace OperatorTable

/-- The names are listed in the order of their code points, each of them once. -/
theorem increasing_sortedNames (table : OperatorTable) :
    table.sortedNames.Pairwise (· < ·) := Text.increasing_sorted table.nodup

theorem mem_sortedNames_iff {table : OperatorTable} {name : String} :
    name ∈ table.sortedNames ↔ ∃ op, table.find? name = some op := by
  rw [sortedNames, Text.mem_sorted, NameMap.mem_names_iff_find?_isSome, Option.isSome_iff_exists]

/-- The operators are listed in the order of their names. -/
theorem map_get_sortedNames (table : OperatorTable) :
    table.sortedNames.map table.get = table.sortedOperators.map .ok := by
  have each : ∀ names : List String, (∀ name ∈ names, ∃ op, table.find? name = some op) →
      names.map table.get = (names.filterMap table.find?).map .ok := by
    intro names known
    induction names with
    | nil => rfl
    | cons name names ih =>
      obtain ⟨⟨op, found⟩, known⟩ := List.forall_mem_cons.mp known
      rw [List.map_cons, get_eq_ok_iff.mpr found, ih known, List.filterMap_cons_some found,
        List.map_cons]
  exact each _ fun name mem => mem_sortedNames_iff.mp mem

end OperatorTable

namespace Session

/-- The operators that have been accepted, in this order. The built-in ones come first. -/
def accepted (requests : List Request) : List Operator :=
  OperatorTable.builtIn.entries.map (·.2) ++ requests.filterMap Request.accepted?

theorem accepted_append (first later : List Request) :
    accepted (first ++ later) = accepted first ++ later.filterMap Request.accepted? := by
  rw [accepted, List.filterMap_append, ← List.append_assoc, accepted]

/-- The operator that has been accepted last under a name. -/
def operator? (requests : List Request) (name : String) : Option Operator :=
  (accepted requests).reverse.find? (·.name = name)

/-- A request changes the operators by the one that it registers, if it is accepted. -/
theorem operators_ask (s : Session) (r : Request) :
    (s.ask r).2.workspace.operators =
      s.workspace.operators.putAll (r.accepted?.toList.map fun op => (op.name, op)) := by
  rw [ask_eq_perform]
  cases r with
  | act action =>
    change (s.perform action).workspace.operators = _
    rw [operators_perform]
    cases action with
    | registerOperator name template arity =>
      simp only [Action.operatorsAfter, OperatorTable.register, Request.accepted?]
      cases defined : Operator.define name template arity with
      | error e => rfl
      | ok op =>
        obtain rfl := Operator.eq_of_define defined
        rfl
    | _ => rfl
  | registerVariation name base v =>
    simp only [actions]
    cases base.vary v <;> rfl
  | configuredBackend settings => exact operators_lookUp _ _
  | configuredCommand settings =>
    simp only [actions]
    cases (s.workspace.getBackend settings.target).1 with
    | error e => exact operators_lookUp _ _
    | ok b => exact operators_lookUp _ _
  | _ => rfl

theorem operators_asked (requests : List Request) :
    (asked requests).workspace.operators =
      .ofList ((accepted requests).map fun op => (op.name, op)) := by
  induction requests using List.reverseRecOn with
  | nil => exact NameMap.ext (by decide +kernel)
  | append_singleton first r ih =>
    rw [asked_concat, operators_ask, ih, accepted_append, Request.filterMap_singleton,
      List.map_append, NameMap.ofList_append]

theorem find?_operators_asked (requests : List Request) (name : String) :
    (asked requests).workspace.operators.find? name = operator? requests name := by
  have lookup : ∀ operators : List Operator,
      (operators.map fun op => (op.name, op)).lookup name =
        operators.find? (·.name = name) := by
    intro operators
    induction operators with
    | nil => rfl
    | cons op operators ih =>
      rw [List.map_cons, NameMap.lookup_cons_eq_ite, List.find?_cons, ih]
      by_cases same : op.name = name
      · simp [same]
      · simp [same, Ne.symm same]
  rw [operators_asked, NameMap.find?_ofList, ← List.map_reverse, lookup, operator?]

theorem operator?_eq_none_iff {requests : List Request} {name : String} :
    operator? requests name = none ↔ ∀ op ∈ accepted requests, op.name ≠ name := by
  simp [operator?]

/-- An entry is one of the operators that have been accepted, filed under its own name. -/
theorem mem_accepted_of_find? {requests : List Request} {name : String} {op : Operator}
    (found : (asked requests).workspace.operators.find? name = some op) :
    op ∈ accepted requests ∧ op.name = name := by
  rw [find?_operators_asked, operator?] at found
  exact ⟨List.mem_reverse.mp (List.mem_of_find?_eq_some found), by
    simpa using List.find?_some found⟩

theorem isAcceptable_of_accepted {requests : List Request} {op : Operator}
    (mem : op ∈ accepted requests) : op.IsAcceptable := by
  rcases List.mem_append.mp mem with known | new
  · obtain ⟨entry, inside, rfl⟩ := List.mem_map.mp known
    exact (Operator.define_ok_iff.mp (OperatorTable.builtIn_plain entry inside).1).2
  · obtain ⟨r, -, made⟩ := List.mem_filterMap.mp new
    exact Request.isAcceptable_of_accepted? made

/-- How operators are stored after some requests. -/
structure Stores (requests : List Request) : Prop where
  /-- Under a name stands the operator that has been accepted last. -/
  found : ∀ name, (asked requests).workspace.operators.get name =
    match operator? requests name with
    | some op => .ok op
    | none =>
      .error (.unknownOperator name (asked requests).workspace.operators.sortedNames)
  /-- Only a name that has never been accepted is refused, as a faulty construction. -/
  refused : ∀ name,
    (∃ e, (asked requests).workspace.operators.get name = .error e ∧
        e.report?.map (·.kind) = some .construction) ↔
      ∀ op ∈ accepted requests, op.name ≠ name
  /-- Every entry is filed under its own name, and could be accepted. -/
  entries : ∀ name op, (asked requests).workspace.operators.find? name = some op →
    op.name = name ∧ op.IsAcceptable
  /-- A registration is accepted if its template fits the arity. -/
  accepts : ∀ name template arity op,
    ((asked requests).ask (.registerOperator name template arity)).1 = .ok (.operator op) ↔
      op = ⟨name, template, arity⟩ ∧ op.IsAcceptable
  /-- Else it is refused, and nothing changes. -/
  rejects : ∀ name template arity, ¬ Operator.IsAcceptable ⟨name, template, arity⟩ →
    ∃ e, (asked requests).ask (.registerOperator name template arity) = (.error e, asked requests)
  /-- The names are listed in the order of their code points, each of them once. -/
  increasing : (asked requests).workspace.operators.sortedNames.Pairwise (· < ·)
  /-- They are the names that have been accepted. -/
  listed : ∀ name, name ∈ (asked requests).workspace.operators.sortedNames ↔
    ∃ op ∈ accepted requests, op.name = name
  /-- The operators are listed in the same order. -/
  views : (asked requests).workspace.operators.sortedNames.map
      (asked requests).workspace.operators.get =
    (asked requests).workspace.operators.sortedOperators.map .ok

theorem ask_registerOperator (s : Session) (name template : String) (arity : Int) :
    (∃ op, s.ask (.registerOperator name template arity) =
        (.ok (.operator op), s.perform (.registerOperator name template arity)) ∧
          Operator.define name template arity = .ok op) ∨
      ∃ e, s.ask (.registerOperator name template arity) = (.error e, s) ∧
        Operator.define name template arity = .error e := by
  simp only [ask, replyToAction, perform, Workspace.registerOperator, OperatorTable.register]
  cases Operator.define name template arity with
  | error e => exact .inr ⟨e, rfl, rfl⟩
  | ok op => exact .inl ⟨op, rfl, rfl⟩

/-- Operators are stored in this way at any time. -/
theorem stores_asked (requests : List Request) : Stores requests where
  found name := by
    have here := find?_operators_asked requests name
    unfold OperatorTable.get
    cases latest : operator? requests name with
    | some op => simp only [here.trans latest]
    | none => simp only [here.trans latest]
  refused name := by
    rw [← operator?_eq_none_iff, ← find?_operators_asked]
    unfold OperatorTable.get
    cases (asked requests).workspace.operators.find? name with
    | none => exact iff_of_true ⟨_, rfl, rfl⟩ rfl
    | some op => simp
  entries name op found := by
    obtain ⟨mem, filed⟩ := mem_accepted_of_find? found
    exact ⟨filed, isAcceptable_of_accepted mem⟩
  accepts name template arity op := by
    rw [← Operator.define_ok_iff]
    rcases ask_registerOperator (asked requests) name template arity with
      ⟨made, answered, defined⟩ | ⟨e, answered, refused⟩
    · rw [answered, defined]
      simp
    · rw [answered, refused]
      simp
  rejects name template arity bad := by
    rcases ask_registerOperator (asked requests) name template arity with
      ⟨op, -, defined⟩ | ⟨e, answered, -⟩
    · obtain ⟨rfl, good⟩ := Operator.define_ok_iff.mp defined
      exact absurd good bad
    · exact ⟨e, answered⟩
  increasing := OperatorTable.increasing_sortedNames _
  listed name := by
    rw [OperatorTable.mem_sortedNames_iff]
    constructor
    · rintro ⟨op, found⟩
      exact ⟨op, mem_accepted_of_find? found⟩
    · rintro ⟨op, mem, filed⟩
      rw [find?_operators_asked, ← Option.isSome_iff_exists]
      by_contra missing
      have missing := operator?_eq_none_iff.mp (Option.not_isSome_iff_eq_none.mp missing)
      exact missing op mem filed
  views := OperatorTable.map_get_sortedNames _

end Session
end Criteria
