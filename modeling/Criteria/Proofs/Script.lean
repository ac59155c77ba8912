import Criteria.Proofs.Counterpart

/-!
# Scripts

A script is a list of calls on one command, each given fixed arguments and what earlier calls of the
script have made. The same script on another command, of another dialect, with other names, and
after other calls, comes to the same: each call fails for the same cause on both, or makes the same
on both. What is made has one text but for the placeholders, and one digest. Objects without values
that are not numbers are also equal.
-/

namespace Criteria

open Build

/-- What is written of two answers is the same but for placeholders, the objects have one digest,
and they are related by `same`. -/
inductive Answer.Agree (same : Item → Item → Prop) : Answer → Answer → Prop
  | name {s t : String} : Agree same (.name s) (.name t)
  | parameter {p q : Parameter} (related : same (.parameter p) (.parameter q))
      (digest : (Item.parameter p).digest = (Item.parameter q).digest)
      (text : ∀ marker, p.markedText marker = q.markedText marker) :
      Agree same (.parameter p) (.parameter q)
  | condition {d e : Condition} (related : same (.condition d) (.condition e))
      (digest : (Item.condition d).digest = (Item.condition e).digest)
      (text : ∀ operators marker, d.textWith operators (Parameter.markedText marker) =
        e.textWith operators (Parameter.markedText marker)) :
      Agree same (.condition d) (.condition e)

namespace Answer

variable {free : Prop} {c c' : Command} {a b : Answer}

theorem Agree.imp {same other : Item → Item → Prop} (h : Agree same a b)
    (weaker : ∀ x y, same x y → other x y) : Agree other a b := by
  cases h with
  | name => exact .name
  | parameter related digest text => exact .parameter (weaker _ _ related) digest text
  | condition related digest text => exact .condition (weaker _ _ related) digest text

theorem agree_of_counterpart (h : Counterpart free c c' a b) :
    Agree (fun x y => (free → x.NanFree) ∧ (x.NanFree → Item.equal x y = .ok true)) a b := by
  have equal : ∀ {x y : Item}, x.Matches Parameter.Twin y →
      x.NanFree → Item.equal x y = .ok true :=
    fun twin own => Item.equal_eq_true_iff.mpr (Item.key_eq_of_twin own twin)
  have text : ∀ {p q : Parameter} (marker : String), p.Twin q →
      p.markedText marker = q.markedText marker := by
    intro p q marker twin
    rw [Parameter.markedText, Parameter.markedText, twin.bindable, twin.value]
  cases h with
  | name => exact .name
  | parameter h =>
    exact .parameter ⟨h.nanFree, equal (.parameter h.toTwin)⟩
      (Parameter.digest_eq_of_twin h.toTwin) fun marker => text marker h.toTwin
  | @condition d e h =>
    have twins : d.Matches Parameter.Twin e := h.form.imp_of_leaves fun _ _ _ _ h => h.toTwin
    have each : ∀ p ∈ d.leaves, free → p.NanFree :=
      ((List.forall₂_and_left _ _).mp (h.form.leaves.imp fun _ _ h => ⟨h.nanFree, h⟩)).1
    refine .condition ⟨fun f p hp => each p hp f, equal (.condition twins)⟩
      (Condition.digest_eq_of_twin twins) fun operators marker => ?_
    exact Condition.textWith_eq_of_matches twins fun p q h => ⟨h.column, text marker h⟩

end Answer

theorem rel_getElem? {α β : Type} {rel : α → β → Prop} {as : List α} {bs : List β}
    (h : List.Forall₂ rel as bs) (i : Nat) : Option.Rel rel as[i]? bs[i]? := by
  induction h generalizing i with
  | nil => exact .none
  | cons first _ ih =>
    cases i with
    | zero => exact .some first
    | succ i => simpa using ih i

namespace Script

/-- Why a step of a script has made nothing. -/
inductive Fault where
  | refused (cause : Error)
  /-- The step refers to something that an earlier step has not made. -/
  | missing (step : Nat)

/-- A call of a script. It refers to conditions by the number of the step that made them, and to
parameters by that and their place among the parameters that the step made. -/
inductive Step where
  | fresh (call : Call) (alone : call.isSelfContained = true)
  | inParameters (column : Option String) (items : Option (List (Nat × Nat))) (negated : Bool)
  | join (connective : Connective) (conditions : List Nat) (onSelf : Bool)
  | negate (condition : Option Nat)

abbrev Outcome := Except Fault Answer

def answerAt (past : List Outcome) (i : Nat) : Except Fault Answer :=
  match past[i]? with
  | some (.ok answer) => .ok answer
  | _ => .error (.missing i)

def conditionAt (past : List Outcome) (i : Nat) : Except Fault Condition := do
  match ← answerAt past i with
  | .condition d => return d
  | _ => throw (.missing i)

/-- The parameters that a step has made, also through the conditions that it was given. -/
def parametersAt (past : List Outcome) (i : Nat) : Except Fault (List Parameter) := do
  match ← answerAt past i with
  | .name _ => return []
  | .parameter p => return [p]
  | .condition d => return d.leaves

def parameterAt (past : List Outcome) (place : Nat × Nat) : Except Fault Parameter := do
  match (← parametersAt past place.1)[place.2]? with
  | some p => return p
  | none => throw (.missing place.1)

namespace Step

/-- The call that a step makes after the steps before it. -/
def resolve (past : List Outcome) : Step → Except Fault Call
  | fresh call _ => .ok call
  | inParameters column none negated => .ok (.inParameters column none negated)
  | inParameters column (some items) negated => do
    return .inParameters column (some (← items.mapM (parameterAt past))) negated
  | join connective conditions onSelf => do
    return .join connective (← conditions.mapM (conditionAt past)) onSelf
  | negate none => .ok (.negate none)
  | negate (some i) => do return .negate (some (← conditionAt past i))

def arguments : Step → List Value
  | fresh call _ => call.arguments
  | _ => []

def spelled : Step → List Value
  | fresh call _ => call.spelled
  | _ => []

end Step

/-- How far a script has come: the names that are left, and what its steps have led to. -/
structure Run where
  supply : Supply
  outcomes : List Outcome

def Run.perform (operators : OperatorTable) (c : Command) (r : Run) (step : Step) : Run :=
  match step.resolve r.outcomes with
  | .ok call =>
    let (outcome, left) := (call.run operators c).run.run r.supply
    ⟨left, r.outcomes ++ [outcome.mapError .refused]⟩
  | .error fault => ⟨r.supply, r.outcomes ++ [.error fault]⟩

/-- What the steps of a script lead to, on a command with the given names left. -/
def outcomes (operators : OperatorTable) (c : Command) (s : Supply) (script : List Step) :
    List Outcome :=
  (script.foldl (Run.perform operators c) ⟨s, []⟩).outcomes

section Counterparts

variable {free : Prop} {c c' : Command} {past past' : List Outcome}

/-- What the steps so far have led to, on the one command and on the other. -/
abbrev Abreast (free : Prop) (c c' : Command) : List Outcome → List Outcome → Prop :=
  List.Forall₂ (InStep (Answer.Counterpart free c c'))

theorem answerAt_inStep (h : Abreast free c c' past past') (i : Nat) :
    InStep (Answer.Counterpart free c c') (answerAt past i) (answerAt past' i) := by
  have found := rel_getElem? h i
  unfold answerAt
  generalize past[i]? = x at found ⊢
  generalize past'[i]? = y at found ⊢
  cases found with
  | none => rfl
  | @some x y h =>
    match x, y, h with
    | .ok _, .ok _, h => exact h
    | .error _, .error _, _ => rfl

theorem conditionAt_inStep (h : Abreast free c c' past past') (i : Nat) :
    InStep (Condition.Counterpart free c c') (conditionAt past i) (conditionAt past' i) := by
  refine (answerAt_inStep h i).bind fun a b found => ?_
  cases found with
  | condition h => exact h
  | _ => rfl

theorem parametersAt_inStep (h : Abreast free c c' past past') (i : Nat) :
    InStep (List.Forall₂ (Parameter.Counterpart free)) (parametersAt past i)
      (parametersAt past' i) := by
  refine (answerAt_inStep h i).bind fun a b found => ?_
  cases found with
  | name => exact .nil
  | parameter h => exact .cons h .nil
  | condition h => exact h.form.leaves

theorem parameterAt_inStep (h : Abreast free c c' past past') (place : Nat × Nat) :
    InStep (Parameter.Counterpart free) (parameterAt past place) (parameterAt past' place) := by
  refine (parametersAt_inStep h place.1).bind fun all all' each => ?_
  have found := rel_getElem? each place.2
  generalize all[place.2]? = x at found ⊢
  generalize all'[place.2]? = y at found ⊢
  cases found with
  | none => rfl
  | some h => exact h

/-- After counterparts a step makes counterparts of one call. -/
theorem resolve_inStep (h : Abreast free c c' past past') {step : Step}
    (own : free → ∀ v ∈ step.arguments ++ step.spelled, v.hasNan = false) :
    InStep (Call.Counterpart free c c') (step.resolve past) (step.resolve past') := by
  match step with
  | .fresh call alone => exact .same alone own
  | .inParameters column none negated => exact .inParameters .none
  | .inParameters column (some items) negated =>
    exact (InStep.mapM fun place => parameterAt_inStep h place).bind fun _ _ each =>
      .inParameters (.some each)
  | .join connective conditions onSelf =>
    exact (InStep.mapM fun i => conditionAt_inStep h i).bind fun _ _ each => .join each
  | .negate none => exact .negate .none
  | .negate (some i) => exact (conditionAt_inStep h i).bind fun _ _ found => .negate (.some found)

theorem perform_abreast (operators : OperatorTable) {r r' : Run} {step : Step}
    (h : Abreast free c c' r.outcomes r'.outcomes)
    (own : free → ∀ v ∈ step.arguments ++ step.spelled, v.hasNan = false) :
    Abreast free c c' (r.perform operators c step).outcomes
      (r'.perform operators c' step).outcomes := by
  have resolved := resolve_inStep h own
  unfold Run.perform
  generalize step.resolve r.outcomes = x at resolved ⊢
  generalize step.resolve r'.outcomes = y at resolved ⊢
  rcases x with fault | call <;> rcases y with fault' | call'
  · exact List.rel_append h (.cons resolved .nil)
  · exact resolved.elim
  · exact resolved.elim
  · have outcome := (Call.lockstep_run operators resolved r.supply r'.supply).mapError Fault.refused
    exact List.rel_append h (.cons outcome .nil)

theorem outcomes_abreast (operators : OperatorTable) (s t : Supply) (script : List Step)
    (own : free → ∀ step ∈ script, ∀ v ∈ step.arguments ++ step.spelled, v.hasNan = false) :
    Abreast free c c' (outcomes operators c s script) (outcomes operators c' t script) := by
  -- Runs are compared from any point on: the names that are left need not be related.
  have runs : ∀ (r r' : Run), Abreast free c c' r.outcomes r'.outcomes →
      Abreast free c c' (script.foldl (Run.perform operators c) r).outcomes
        (script.foldl (Run.perform operators c') r').outcomes := by
    induction script with
    | nil => exact fun _ _ h => h
    | cons step script ih =>
      intro r r' h
      have first := perform_abreast operators h fun f => own f step List.mem_cons_self
      exact ih (fun f other hother => own f other (List.mem_cons_of_mem step hother)) _ _ first
  exact runs _ _ .nil

end Counterparts

/-- Each step of a script fails on both commands, with one cause for the same report, or it makes the
same on both. Objects without values that are not numbers are equal. All that is made is equal if
there are no such values among those that the calls are given, including those that delimited texts
spell. -/
theorem same_on_commands (operators : OperatorTable) (c c' : Command) (s t : Supply)
    (script : List Step) :
    List.Forall₂ (InStep (Answer.Agree fun a b => a.NanFree → Item.equal a b = .ok true))
        (outcomes operators c s script) (outcomes operators c' t script) ∧
      ((∀ step ∈ script, ∀ v ∈ step.arguments ++ step.spelled, v.hasNan = false) →
        List.Forall₂ (InStep (Answer.Agree fun a b => Item.equal a b = .ok true))
          (outcomes operators c s script) (outcomes operators c' t script)) := by
  constructor
  · have abreast : Abreast False c c' _ _ := outcomes_abreast operators s t script nofun
    exact abreast.imp fun _ _ h => h.imp fun _ _ answers =>
      (Answer.agree_of_counterpart answers).imp fun _ _ related => related.2
  · intro free
    have abreast : Abreast True c c' _ _ := outcomes_abreast operators s t script fun _ => free
    exact abreast.imp fun _ _ h => h.imp fun _ _ answers =>
      (Answer.agree_of_counterpart answers).imp fun _ _ related => related.2 (related.1 trivial)

end Script

namespace Sample

/-! A script with steps of all sorts. The text of the third one does not spell integers, and so there
is nothing to negate in the last one. -/

def search : List Script.Step :=
  [.fresh (.parameter (some "age") (.int 18) none) rfl,
    .fresh (.compare (some "age") "BETWEEN" [.int 18, .bool true] none) rfl,
    .fresh (.inDelimited (some "age") (some "1;x") .integer ";" false) rfl,
    .inParameters none (some [(0, 0), (1, 1)]) true, .join .or [1, 3] false, .negate (some 4),
    .negate (some 2)]

theorem nanFree_search :
    ∀ step ∈ search, ∀ v ∈ step.arguments ++ step.spelled, v.hasNan = false := by
  decide +kernel

/-! A text that spells what is not a number. -/

def unordered : List Script.Step :=
  [.fresh (.inDelimited (some "x") (some "nan") .float "," false) rfl]

def unorderedIn (c : Command) : Condition :=
  .membership c (some "x") [{ valued c (.float .nan) with dataType := .float }] false

end Sample

namespace Script

open Sample

theorem same_on_commands_search :
    (outcomes .builtIn command ⟨0, 0⟩ search).map (·.toOption.isSome) =
        [true, true, false, true, true, true, false] ∧
      List.Forall₂ (InStep (Answer.Agree fun a b => Item.equal a b = .ok true))
        (outcomes .builtIn command ⟨0, 0⟩ search) (outcomes .builtIn elsewhere ⟨7, 9⟩ search) :=
  ⟨by decide +kernel,
    (same_on_commands .builtIn command elsewhere ⟨0, 0⟩ ⟨7, 9⟩ search).2 nanFree_search⟩

/-- It is not enough that no argument itself is a value that is not a number: a text may spell one,
which each of two commands then reads for itself. -/
theorem not_same_on_commands :
    ¬ ∀ (operators : OperatorTable) (c c' : Command) (s t : Supply) (script : List Step),
      (∀ step ∈ script, ∀ v ∈ step.arguments, v.hasNan = false) →
        List.Forall₂ (InStep (Answer.Agree fun a b => Item.equal a b = .ok true))
          (outcomes operators c s script) (outcomes operators c' t script) := by
  intro same
  have agree := same .builtIn command elsewhere ⟨0, 0⟩ ⟨0, 1⟩ unordered (by decide +kernel)
  have left : outcomes .builtIn command ⟨0, 0⟩ unordered =
      [.ok (.condition (unorderedIn command))] := rfl
  have right : outcomes .builtIn elsewhere ⟨0, 1⟩ unordered =
      [.ok (.condition (unorderedIn elsewhere))] := rfl
  rw [left, right] at agree
  obtain ⟨answers, -⟩ := List.forall₂_cons.mp agree
  cases answers with
  | condition related => exact absurd (Item.equal_eq_true_iff.mp related) (by decide +kernel)

end Script
end Criteria
