import Criteria.Compiled
import Criteria.Proofs.Condition.Built

/-!
# Conditions that come about in a session

Every condition that the calls of a session return, whichever parameters and conditions of whichever
commands they are given. Its parameters have all been created in the session, but not always by one
command: a condition is checked for its command where conditions are put together, and a parameter
is not.
-/

namespace Criteria

open Build

namespace Call

/-- The parameters that the call is given. -/
def given : Call → List Parameter
  | inParameters _ items _ => items.getD []
  | ofParameters _ first second => first :: second.toList
  | ofItems _ items _ => items
  | _ => []

/-- The conditions that the call puts together. -/
def parts : Call → List Condition
  | join _ conditions _ => conditions
  | ofGroup _ conditions => conditions
  | negate condition => condition.toList
  | ofNegation condition => [condition]
  | _ => []

/-- The call puts conditions together: it joins or negates what it is given. -/
def composes : Call → Bool
  | join .. => true
  | ofGroup .. => true
  | negate .. => true
  | ofNegation .. => true
  | _ => false

/-- The command that a condition made by the call is to belong to, if it can be told: the one that is
called, or that of the first condition given. -/
def owner (c : Command) : Call → Option Command
  | join _ conditions onSelf => if onSelf then some c else conditions.head?.map (·.command)
  | negate condition => condition.map (·.command)
  | _ => some c

end Call

namespace Condition

/-- The conditions that a condition is put together from. -/
def members : Condition → List Condition
  | group _ _ conditions => conditions
  | negation _ condition => [condition]
  | _ => []

/-- What a condition holds, it holds itself or through one that it is put together from. -/
theorem mem_leaves_iff {d : Condition} {p : Parameter} :
    p ∈ d.leaves ↔ p ∈ d.held ∨ ∃ member ∈ d.members, p ∈ member.leaves := by
  cases d with
  | comparison c operator first second => simp [leaves, held, members]
  | membership c column items negated => simp [leaves, held, members]
  | group c connective conditions =>
    rw [leaves, mem_leavesOfAll, held, members]
    simp
  | negation c condition => simp [leaves, held, members]

variable {operators : OperatorTable}

/-- A condition in a list adds its parameters, or nothing if it has no text. -/
theorem parametersOfAll_cons_ok {d : Condition} {rest : List Condition} {all : List Parameter}
    (h : parametersOfAll operators (d :: rest) = .ok all) :
    ∃ own others, (own = [] ∨ ∃ given, d.parameters operators = .ok given ∧ own = given.getD []) ∧
      parametersOfAll operators rest = .ok others ∧ all = own ++ others := by
  rw [parametersOfAll, bind_eq_ok_iff] at h
  obtain ⟨text, -, h⟩ := h
  by_cases empty : text = ""
  · simp only [empty, if_true, bind_eq_ok_iff] at h
    obtain ⟨own, hown, others, found, h⟩ := h
    cases hown
    cases h
    exact ⟨[], others, .inl rfl, found, rfl⟩
  · simp only [empty, if_false, bind_eq_ok_iff] at h
    obtain ⟨own, hown, others, found, h⟩ := h
    cases h
    cases parameters : d.parameters operators with
    | error e =>
      rw [parameters] at hown
      cases hown
    | ok given =>
      rw [parameters] at hown
      cases hown
      exact ⟨_, others, .inr ⟨given, rfl, rfl⟩, found, rfl⟩

mutual

/-- What a condition binds or writes is what it holds. -/
theorem mem_leaves_of_parameters : ∀ {d : Condition} {given : Option (List Parameter)},
    d.parameters operators = .ok given → ∀ p ∈ given.getD [], p ∈ d.leaves
  | comparison _ operator first second, given, h => by
    intro p hp
    simp only [parameters, bind_eq_ok_iff] at h
    obtain ⟨op, -, h⟩ := h
    by_cases bare : op.arity = 0
    · simp only [bare, if_true] at h
      cases h
      cases hp
    · simp only [bare, if_false, bind_eq_ok_iff] at h
      obtain ⟨values, taken, h⟩ := h
      cases h
      exact mem_of_comparands taken hp
  | membership _ _ items _, given, h => by
    simp only [parameters] at h
    cases h
    exact fun p hp => hp
  | group _ _ conditions, given, h => by
    simp only [parameters, bind_eq_ok_iff] at h
    obtain ⟨all, found, h⟩ := h
    cases h
    exact mem_leaves_of_parametersOfAll found
  | negation _ condition, given, h => by
    intro p hp
    simp only [parameters, bind_eq_ok_iff] at h
    obtain ⟨text, -, h⟩ := h
    by_cases empty : text = ""
    · simp only [empty, if_true] at h
      cases h
      cases hp
    · simp only [empty, if_false] at h
      exact mem_leaves_of_parameters h p hp

theorem mem_leaves_of_parametersOfAll : ∀ {conditions : List Condition} {all : List Parameter},
    parametersOfAll operators conditions = .ok all → ∀ p ∈ all, p ∈ leavesOfAll conditions
  | [], all, h => by
    simp only [parametersOfAll] at h
    cases h
    intro p hp
    cases hp
  | d :: rest, all, h => by
    intro p hp
    obtain ⟨own, others, hown, hothers, rfl⟩ := parametersOfAll_cons_ok h
    rcases List.mem_append.mp hp with hp | hp
    · rcases hown with rfl | ⟨given, found, rfl⟩
      · cases hp
      · exact List.mem_append_left _ (mem_leaves_of_parameters found p hp)
    · exact List.mem_append_right _ (mem_leaves_of_parametersOfAll hothers p hp)

end

theorem made_ofParameters {table : OperatorTable} {c : Command} {operator : String}
    {first : Parameter} {second : Option Parameter} {d : Condition}
    (made : ofParameters table c operator first second = .ok d) :
    d.command = c ∧ d.members = [] ∧ d.held = first :: second.toList := by
  obtain ⟨op, -, -, rfl⟩ := ofParameters_ok made
  exact ⟨rfl, rfl, rfl⟩

end Condition

namespace Call

variable {operators : OperatorTable} {c : Command} {call : Call} {d : Condition} {s t : Supply}

/-- A call that puts conditions together finds the command of the whole, asks each condition for its
own, and makes a condition of them. -/
theorem run_of_composes (composes : call.composes = true) (operators : OperatorTable) (c : Command)
    (s : Supply) :
    (call.owner c = none ∧ ∃ cause, (cause = .emptyGroup ∨ cause = .missingCondition) ∧
        (call.run operators c).run.run s = (.error cause, s)) ∨
      ∃ d, call.owner c = some d.command ∧ d.members = call.parts ∧ d.held = [] ∧
        (call.run operators c).run.run s =
          ((do
            Condition.requireCommand d.command call.parts
            return .condition d), s) := by
  have lifted : ∀ x : Except Error Condition,
      (Answer.condition <$> (liftM x : Build Condition)).run.run s = (Answer.condition <$> x, s) := by
    intro x
    cases x <;> rfl
  cases call with
  | join connective conditions onSelf =>
    cases onSelf with
    | true =>
      refine .inr ⟨.group c connective conditions, rfl, rfl, rfl, ?_⟩
      rw [run, lifted, if_pos rfl, Condition.join, Condition.ofGroup, map_bind]
      rfl
    | false =>
      cases conditions with
      | nil => exact .inl ⟨rfl, .emptyGroup, .inl rfl, rfl⟩
      | cons first rest =>
        refine .inr ⟨.group first.command connective (first :: rest), rfl, rfl, rfl, ?_⟩
        rw [run, lifted, if_neg (by decide), Condition.join, Condition.ofGroup, map_bind]
        rfl
  | ofGroup connective conditions =>
    refine .inr ⟨.group c connective conditions, rfl, rfl, rfl, ?_⟩
    rw [run, lifted, Condition.ofGroup, map_bind]
    rfl
  | negate condition =>
    cases condition with
    | none => exact .inl ⟨rfl, .missingCondition, .inr rfl, rfl⟩
    | some inner =>
      refine .inr ⟨.negation inner.command inner, rfl, rfl, rfl, ?_⟩
      rw [run, lifted, Condition.negate, Condition.ofNegation, map_bind]
      rfl
  | ofNegation condition =>
    refine .inr ⟨.negation c condition, rfl, rfl, rfl, ?_⟩
    rw [run, lifted, Condition.ofNegation, map_bind]
    rfl
  | _ => cases composes

/-- A condition that a call returns is put together from the conditions that the call is given, and
all of these are of the command of the condition. What it holds itself was created by the call or
given to it, and then it is of the command that is called. -/
theorem made_of_run (h : (call.run operators c).run.run s = (.ok (.condition d), t)) :
    call.owner c = some d.command ∧ d.members = call.parts ∧
      (∀ part ∈ call.parts, part.command = d.command) ∧
      ∀ p ∈ d.held, d.command = c ∧ (call.creates = true ∨ p ∈ call.given) := by
  by_cases composes : call.composes = true
  · rcases run_of_composes composes operators c s with
      ⟨-, cause, -, failed⟩ | ⟨whole, owned, members, bare, ran⟩
    · rw [failed] at h
      cases h
    · obtain ⟨made, -⟩ := Prod.mk.inj (ran.symm.trans h)
      obtain ⟨⟨⟩, required, made⟩ := bind_eq_ok_iff.mp made
      cases made
      exact ⟨owned, members, Condition.requireCommand_eq_ok_iff.mp required,
        fun p hp => absurd (bare ▸ hp) List.not_mem_nil⟩
  -- What is left is made of parameters only.
  have leaf : call.parts = [] → call.owner c = some c → d.command = c → d.members = [] →
      (∀ p ∈ d.held, call.creates = true ∨ p ∈ call.given) →
      call.owner c = some d.command ∧ d.members = call.parts ∧
        (∀ part ∈ call.parts, part.command = d.command) ∧
        ∀ p ∈ d.held, d.command = c ∧ (call.creates = true ∨ p ∈ call.given) := by
    intro partless owned own members held
    rw [partless, own]
    exact ⟨owned, members, fun _ part => absurd part List.not_mem_nil,
      fun p hp => ⟨rfl, held p hp⟩⟩
  have made := @Answer.condition_ok
  cases call with
  | nextName =>
    obtain ⟨_, -, other⟩ := map_ok_iff.mp h
    cases other
  | parameter column value type =>
    obtain ⟨_, -, other⟩ := map_ok_iff.mp h
    cases other
  | literal column value type =>
    obtain ⟨_, -, other⟩ := map_ok_iff.mp h
    cases other
  | expression column expr =>
    obtain ⟨_, -, other⟩ := map_ok_iff.mp h
    cases other
  | compare column operator values type =>
    obtain ⟨op, first, second, -, -, hd, -⟩ := Condition.compare_ok (made h)
    obtain ⟨own, members, -⟩ := Condition.made_ofParameters hd
    exact leaf rfl rfl own members fun _ _ => .inl rfl
  | compareColumn column operator otherColumn otherTable =>
    obtain ⟨expr, hd⟩ := Condition.compareColumn_ok (made h)
    obtain ⟨op, first, -, -, hd, -⟩ := Condition.compareExpression_ok hd
    obtain ⟨own, members, -⟩ := Condition.made_ofParameters hd
    exact leaf rfl rfl own members fun _ _ => .inl rfl
  | compareExpression column operator expr =>
    obtain ⟨op, first, -, -, hd, -⟩ := Condition.compareExpression_ok (made h)
    obtain ⟨own, members, -⟩ := Condition.made_ofParameters hd
    exact leaf rfl rfl own members fun _ _ => .inl rfl
  | inValues column values type negated =>
    obtain ⟨list, -, hd⟩ := Condition.inValues_ok (made h)
    obtain ⟨items, rfl, -⟩ := Condition.inList_ok hd
    exact leaf rfl rfl rfl rfl fun _ _ => .inl rfl
  | inDelimited column text type separator negated =>
    obtain ⟨list, -, hd⟩ := Condition.inDelimited_ok (made h)
    obtain ⟨items, rfl, -⟩ := Condition.inList_ok hd
    exact leaf rfl rfl rfl rfl fun _ _ => .inl rfl
  | inParameters column items negated =>
    obtain ⟨list, own, rfl, rfl, -⟩ := Condition.inParameters_ok (lift_ok_iff.mp (made h)).1
    exact leaf rfl rfl rfl rfl fun _ => .inr
  | ofParameters operator first second =>
    obtain ⟨own, members, held⟩ := Condition.made_ofParameters (lift_ok_iff.mp (made h)).1
    refine leaf rfl rfl own members fun p hp => ?_
    rw [held] at hp
    exact .inr hp
  | ofItems column items negated =>
    obtain ⟨-, rfl⟩ := Condition.ofItems_eq_ok_iff.mp (lift_ok_iff.mp (made h)).1
    exact leaf rfl rfl rfl rfl fun _ => .inr
  | _ => exact absurd rfl composes

/-- What a condition holds that a call returns was created by the call or given to it, and then the
condition is one of the command that is called, or it was held by a condition given to the call, and
then the condition is one of the same command as that. -/
theorem leaves_of_run (h : (call.run operators c).run.run s = (.ok (.condition d), t))
    {p : Parameter} (hp : p ∈ d.leaves) :
    d.command = c ∧ (call.creates = true ∧ p ∈ d.held ∨ p ∈ call.given) ∨
      ∃ part ∈ call.parts, part.command = d.command ∧ p ∈ part.leaves := by
  obtain ⟨-, members, own, held⟩ := made_of_run h
  rcases Condition.mem_leaves_iff.mp hp with hp | ⟨part, hpart, hp⟩
  · obtain ⟨called, creates | given⟩ := held p hp
    · exact .inl ⟨called, .inl ⟨creates, hp⟩⟩
    · exact .inl ⟨called, .inr given⟩
  · rw [members] at hpart
    exact .inr ⟨part, hpart, own part hpart, hp⟩

end Call

theorem Command.compile_ok {operators : OperatorTable} {c : Command} {d : Condition}
    {out : Compiled} (h : c.compile operators d = .ok out) :
    ∃ given, d.text operators = .ok out.sql ∧ d.parameters operators = .ok given ∧
      out.bindings = .ofParameters (given.getD []) ∧ out.dialect = c.dialect.name := by
  simp only [Command.compile, Condition.bindings, bind_eq_ok_iff] at h
  obtain ⟨sql, hsql, bindings, ⟨given, parameters, hbindings⟩, h⟩ := h
  cases hbindings
  cases h
  exact ⟨given, hsql, parameters, rfl, rfl⟩

namespace Session

/-- What comes about in a session: a condition that a call has returned, when the call was given
conditions that have come about in the same way, and parameters that `admits` lets pass to the
command that was called. -/
inductive Constructed (s : Session) (admits : Command → Parameter → Prop) : Condition → Prop
  | returned {e : Event} {d : Condition} (called : e ∈ s.events)
      (given : ∀ p ∈ e.call.given, admits e.command p)
      (parts : ∀ part ∈ e.call.parts, Constructed s admits part)
      (made : e.outcome = .ok (.condition d)) : Constructed s admits d

/-- The parameter has been created in the session, by whichever command. -/
def Known (s : Session) (_ : Command) (p : Parameter) : Prop := ∃ c, s.Issued c p

/-- A condition holds what its command has created and what was let pass to it. -/
theorem admitted_of_constructed {s : Session} (h : s.Consistent)
    {admits : Command → Parameter → Prop} (issued : ∀ c p, s.Issued c p → admits c p)
    {d : Condition} (constructed : s.Constructed admits d) :
    ∀ p ∈ d.leaves, admits d.command p := by
  induction constructed with
  | @returned e d called given parts made ih =>
    intro p hp
    have ran := h.ran e called
    rw [made] at ran
    rcases Call.leaves_of_run ran hp with ⟨own, hp⟩ | ⟨part, hpart, own, hp⟩
    · rw [own]
      rcases hp with ⟨creates, hp⟩ | hp
      · exact issued e.command p (issued_of_held called creates made p hp)
      · exact given p hp
    · rw [← own]
      exact ih part hpart p hp

/-- Some command has created each parameter of a condition. -/
theorem known_of_constructed {s : Session} (h : s.Consistent) {d : Condition}
    (constructed : s.Constructed s.Known d) : ∀ p ∈ d.leaves, ∃ c, s.Issued c p :=
  admitted_of_constructed h (fun c _ issued => ⟨c, issued⟩) constructed

/-- Where calls were given parameters of their own command only, a condition holds those of its own
command only. -/
theorem issued_of_constructed {s : Session} (h : s.Consistent) {d : Condition}
    (constructed : s.Constructed s.Issued d) : ∀ p ∈ d.leaves, s.Issued d.command p :=
  admitted_of_constructed h (fun _ _ issued => issued) constructed

end Session
end Criteria
