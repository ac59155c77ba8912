import Criteria.Proofs.Condition.Substituted
import Criteria.Proofs.Operator.Store

/-!
# Conditions left alone

A condition holds all that it is written with but the operators, which are looked up each time. So
whatever is asked for after a condition has been made, it is compiled as before, or fails as before,
unless one of its own operators has been registered again.
-/

namespace Criteria

namespace Condition

variable {table other : OperatorTable}

/-- The second table has the same operators for the comparisons in the condition. -/
def Keeps (table other : OperatorTable) (d : Condition) : Prop :=
  ∀ leaf ∈ d.comparisons, other.get leaf.1 = table.get leaf.1

theorem keeps_group {c : Command} {connective : Connective} {conditions : List Condition} :
    (group c connective conditions).Keeps table other ↔
      ∀ d ∈ conditions, d.Keeps table other := forall_comparisonsOfAll

mutual

/-- The text of a condition depends on its own operators only. -/
theorem textWith_of_keeps {shown : Parameter → Except Error String} : (d : Condition) →
    d.Keeps table other → textWith other shown d = textWith table shown d
  | comparison _ operator first second, keeps => by
    have same : other.get operator = table.get operator :=
      keeps (operator, second) List.mem_cons_self
    rw [textWith, textWith, comparisonText, comparisonText, same]
  | membership _ _ _ _, _ => rfl
  | group _ _ conditions, keeps => by
    rw [textWith, textWith, textsWith_of_keeps conditions (keeps_group.mp keeps)]
  | negation _ condition, keeps => by
    rw [textWith, textWith, textWith_of_keeps condition keeps]

theorem textsWith_of_keeps {shown : Parameter → Except Error String} : (conditions : List Condition) →
    (∀ d ∈ conditions, d.Keeps table other) →
      textsWith other shown conditions = textsWith table shown conditions
  | [], _ => rfl
  | d :: rest, keeps => by
    obtain ⟨own, others⟩ := List.forall_mem_cons.mp keeps
    rw [textsWith, textsWith, textWith_of_keeps d own, textsWith_of_keeps rest others]

end

theorem text_of_keeps {d : Condition} (keeps : d.Keeps table other) :
    d.text other = d.text table := textWith_of_keeps d keeps

mutual

/-- So do its parameters. -/
theorem parameters_of_keeps : (d : Condition) →
    d.Keeps table other → d.parameters other = d.parameters table
  | comparison _ operator first second, keeps => by
    have same : other.get operator = table.get operator :=
      keeps (operator, second) List.mem_cons_self
    rw [parameters, parameters, same]
  | membership _ _ _ _, _ => rfl
  | group _ _ conditions, keeps => by
    rw [parameters, parameters, parametersOfAll_of_keeps conditions (keeps_group.mp keeps)]
  | negation _ condition, keeps => by
    have inner : condition.text other = condition.text table := text_of_keeps keeps
    rw [parameters, parameters, inner, parameters_of_keeps condition keeps]

theorem parametersOfAll_of_keeps : (conditions : List Condition) →
    (∀ d ∈ conditions, d.Keeps table other) →
      parametersOfAll other conditions = parametersOfAll table conditions
  | [], _ => rfl
  | d :: rest, keeps => by
    obtain ⟨own, others⟩ := List.forall_mem_cons.mp keeps
    rw [parametersOfAll, parametersOfAll, text_of_keeps own, parameters_of_keeps d own,
      parametersOfAll_of_keeps rest others]

end

end Condition

theorem Command.compile_of_keeps {table other : OperatorTable} {d : Condition}
    (keeps : d.Keeps table other) (c : Command) : c.compile other d = c.compile table d := by
  rw [compile, compile, Condition.bindings, Condition.bindings, Condition.text_of_keeps keeps,
    Condition.parameters_of_keeps d keeps]

namespace Session

/-- An operator stays as it is until its name is accepted again. -/
theorem find?_operators_onward {s : Session} {later : List Request} {name : String}
    (apart : ∀ r ∈ later, ∀ op, r.accepted? = some op → op.name ≠ name) :
    (s.onward later).workspace.operators.find? name = s.workspace.operators.find? name := by
  induction later generalizing s with
  | nil => rfl
  | cons r later ih =>
    obtain ⟨own, others⟩ := List.forall_mem_cons.mp apart
    change ((s.ask r).2.onward later).workspace.operators.find? name = _
    rw [ih others, operators_ask]
    cases accepted : r.accepted? with
    | none => rfl
    | some op =>
      change (s.workspace.operators.put op.name op).find? name = _
      rw [NameMap.find?_put, if_neg (own op accepted).symm]

/-- A condition that has been made is compiled as before whatever has been asked for since, as long
as none of its operators has been registered again. -/
theorem compile_unaffected {first later : List Request} {d : Condition}
    (constructed : (asked first).Constructed (fun _ _ => True) d)
    (apart : ∀ r ∈ later, ∀ op, r.accepted? = some op → op.name ∉ d.comparisons.map (·.1))
    (c : Command) :
    ((asked (first ++ later)).ask (.compile c d)).1 = ((asked first).ask (.compile c d)).1 := by
  have uses : d.Uses (asked first).workspace.operators := by
    obtain ⟨actions, same⟩ := exists_after first
    rw [same] at constructed ⊢
    exact uses_of_constructed constructed
  have keeps : d.Keeps (asked first).workspace.operators
      (asked (first ++ later)).workspace.operators := by
    intro leaf mem
    obtain ⟨op, known⟩ := Option.isSome_iff_exists.mp (uses leaf mem)
    have kept : (asked (first ++ later)).workspace.operators.find? leaf.1 =
        (asked first).workspace.operators.find? leaf.1 := by
      rw [asked_append]
      refine find?_operators_onward fun r hr op accepted same => ?_
      exact apart r hr op accepted (List.mem_map.mpr ⟨leaf, mem, same.symm⟩)
    rw [OperatorTable.get_eq_ok_iff.mpr known, OperatorTable.get_eq_ok_iff.mpr (kept.trans known)]
  simp only [ask, Command.compile_of_keeps keeps]

end Session

namespace Sample

/-- The dialect of the command is registered again, names are taken from it, an operator of another
name is accepted, and one of its own is refused. -/
def busy : List Request :=
  [.registerDialect "postgres" .oracle, .get "postgres", .create "postgres",
    .openCommand ⟨0, .oracle⟩ "q", .call 0 among, .call 1 between, .call 0 (.ofGroup .and []),
    .registerOperator "RANGE" "\x7b0\x7d BETWEEN \x7b1\x7d AND \x7b2\x7d" 2,
    .registerOperator "BETWEEN" "BETWEEN" 2, .registerOperator "EQUAL" "\x7b0" 1,
    .compile command shortened]

theorem apart_busy : ∀ r ∈ busy, ∀ op, r.accepted? = some op →
    op.name ∉ either.comparisons.map (·.1) ∧ op.name ∉ shortened.comparisons.map (·.1) := by
  have each : ∀ r ∈ busy, ∀ op ∈ r.accepted?, op.name ∉ either.comparisons.map (·.1) ∧
      op.name ∉ shortened.comparisons.map (·.1) := by decide +kernel
  exact each

end Sample

namespace Session

theorem compile_unaffected_revised :
    ((asked (Sample.revised.map .act ++ Sample.busy)).ask
        (.compile Sample.command Sample.either)).1 =
      ((after Sample.revised).ask (.compile Sample.command Sample.either)).1 ∧
    ((asked (Sample.revised.map .act ++ Sample.busy)).ask
        (.compile Sample.command Sample.shortened)).1 = .error .missingSecond := by
  obtain ⟨whole, part⟩ := Sample.constructed_revised
  rw [← asked_act] at whole part
  have failed : Sample.shortened.text (after Sample.revised).workspace.operators =
      .error .missingSecond := by decide +kernel
  constructor
  · rw [← asked_act]
    exact compile_unaffected whole (fun r hr op made => (Sample.apart_busy r hr op made).1) _
  · rw [compile_unaffected part (fun r hr op made => (Sample.apart_busy r hr op made).2) _,
      asked_act]
    simp only [ask, Command.compile, failed]
    rfl

end Session
end Criteria
