import Criteria.Proofs.Condition.Constructed

/-!
# Conditions of one command

Where conditions are put together, each of them is asked for its command, and not for those of the
conditions in it. That is enough: all that is in a condition belongs to the command of the condition,
since it was asked for when it was put there. A call that is given a condition of another command
names the kind of the first such condition and makes nothing.
-/

namespace Criteria

namespace Condition

mutual

/-- A condition with all the conditions in it. -/
def nodes : Condition → List Condition
  | comparison c operator first second => [comparison c operator first second]
  | membership c column items negated => [membership c column items negated]
  | group c connective conditions => group c connective conditions :: nodesOfAll conditions
  | negation c condition => negation c condition :: nodes condition

def nodesOfAll : List Condition → List Condition
  | [] => []
  | d :: rest => nodes d ++ nodesOfAll rest

end

theorem mem_nodesOfAll {conditions : List Condition} {node : Condition} :
    node ∈ nodesOfAll conditions ↔ ∃ d ∈ conditions, node ∈ d.nodes := by
  induction conditions with
  | nil => simp [nodesOfAll]
  | cons d conditions ih => simp [nodesOfAll, ih]

/-- What is in a condition is the condition itself, or in one that it is put together from. -/
theorem mem_nodes_iff {d node : Condition} :
    node ∈ d.nodes ↔ node = d ∨ ∃ member ∈ d.members, node ∈ member.nodes := by
  cases d with
  | comparison c operator first second => simp [nodes, members]
  | membership c column items negated => simp [nodes, members]
  | group c connective conditions => rw [nodes, List.mem_cons, mem_nodesOfAll, members]
  | negation c condition => simp [nodes, members]

/-- The first condition of another command is the one that is told of. -/
theorem requireCommand_eq_error_iff {own : Command} {conditions : List Condition} {cause : Error} :
    requireCommand own conditions = .error cause ↔
      ∃ before d behind, conditions = before ++ d :: behind ∧ (∀ e ∈ before, e.command = own) ∧
        d.command ≠ own ∧ cause = .foreignCondition d.kind := by
  unfold requireCommand
  constructor
  · intro refused
    cases found : conditions.find? fun d => d.command ≠ own with
    | none =>
      rw [found] at refused
      cases refused
    | some d =>
      rw [found] at refused
      obtain ⟨foreign, before, behind, rfl, owned⟩ := List.find?_eq_some_iff_append.mp found
      exact ⟨before, d, behind, rfl, by simpa using owned, by simpa using foreign,
        (Except.error.inj refused).symm⟩
  · rintro ⟨before, d, behind, rfl, owned, foreign, rfl⟩
    have found : (before ++ d :: behind).find? (fun e => e.command ≠ own) = some d :=
      List.find?_eq_some_iff_append.mpr
        ⟨by simpa using foreign, before, behind, rfl, by simpa using owned⟩
    rw [found]

end Condition

theorem Call.eq_of_owner {c own : Command} {call : Call} (owned : call.owner c = some own) :
    own = c ∨ ∃ part ∈ call.parts, part.command = own := by
  cases call with
  | join connective conditions onSelf =>
    cases onSelf with
    | true => exact .inl (Option.some.inj owned).symm
    | false =>
      cases conditions with
      | nil => cases owned
      | cons first rest => exact .inr ⟨first, List.mem_cons_self, Option.some.inj owned⟩
  | negate condition =>
    cases condition with
    | none => cases owned
    | some inner => exact .inr ⟨inner, List.mem_singleton_self inner, Option.some.inj owned⟩
  | _ => exact .inl (Option.some.inj owned).symm

/-- A statement keeps the conditions that it is made with, and they are of one command. -/
theorem Select.conditions_of_make {table : Option String} {columns groupBy : List String}
    {filter having : Option Condition} {orderBy : List OrderItem} {distinct : Bool} {q : Select}
    (h : make table columns filter groupBy having orderBy distinct = .ok q) :
    q.filter = filter ∧ q.having = having ∧
      ∀ e ∈ filter, ∀ f ∈ having, f.command = e.command := by
  unfold make at h
  by_cases missing : table.getD "" = ""
  · simp only [missing, if_true] at h
    cases h
  · cases filter with
    | none =>
      simp only [missing, if_false] at h
      cases h
      exact ⟨rfl, rfl, nofun⟩
    | some filter =>
      cases having with
      | none =>
        simp only [missing, if_false] at h
        cases h
        exact ⟨rfl, rfl, fun _ _ _ => nofun⟩
      | some having =>
        simp only [missing, if_false] at h
        obtain ⟨⟨⟩, required, h⟩ := bind_eq_ok_iff.mp h
        cases h
        refine ⟨rfl, rfl, ?_⟩
        rintro _ ⟨⟩ _ ⟨⟩
        exact Condition.requireCommand_eq_ok_iff.mp required having List.mem_cons_self

/-- The call has failed with an error of construction that has the details. -/
def Event.Refused (e : Event) (details : NameMap Detail) : Prop :=
  ∃ cause report, e.outcome = .error cause ∧ cause.report? = some report ∧
    report.kind = .construction ∧ report.details = details

namespace Session

variable {s : Session} {admits : Command → Parameter → Prop} {c : Command} {call : Call}

/-- A statement that is made of conditions that have come about in a session. -/
inductive Stated (s : Session) (admits : Command → Parameter → Prop) (q : Select) : Prop
  | made {table : Option String} {columns groupBy : List String} {filter having : Option Condition}
      {orderBy : List OrderItem} {distinct : Bool}
      (filtered : ∀ e ∈ filter, s.Constructed admits e)
      (grouped : ∀ e ∈ having, s.Constructed admits e)
      (made : Select.make table columns filter groupBy having orderBy distinct = .ok q) :
      Stated s admits q

theorem mem_commands_of_constructed (h : s.Consistent) {d : Condition}
    (constructed : s.Constructed admits d) : d.command ∈ s.commands := by
  induction constructed with
  | @returned e d called given parts made ih =>
    have ran := h.ran e called
    rw [made] at ran
    obtain ⟨owned, -, own, -⟩ := Call.made_of_run ran
    rcases Call.eq_of_owner owned with same | ⟨part, hpart, -⟩
    · exact same ▸ h.known e called
    · exact own part hpart ▸ ih part hpart

/-- Everything in a condition was asked for its command when it was put there. -/
theorem command_of_constructed (h : s.Consistent) {d : Condition}
    (constructed : s.Constructed admits d) : ∀ node ∈ d.nodes, node.command = d.command := by
  induction constructed with
  | @returned e d called given parts made ih =>
    have ran := h.ran e called
    rw [made] at ran
    obtain ⟨-, members, own, -⟩ := Call.made_of_run ran
    intro node hnode
    rcases Condition.mem_nodes_iff.mp hnode with rfl | ⟨member, hmember, hnode⟩
    · rfl
    · rw [members] at hmember
      rw [ih member hmember node hnode, own member hmember]

theorem command_of_stated (h : s.Consistent) {q : Select} (stated : s.Stated admits q) :
    ∀ e ∈ q.filter.toList ++ q.having.toList, ∀ f ∈ q.filter.toList ++ q.having.toList,
      ∀ node ∈ f.nodes, node.command = e.command := by
  obtain ⟨filtered, grouped, made⟩ := stated
  obtain ⟨rfl, rfl, shared⟩ := Select.conditions_of_make made
  intro e he f hf node hnode
  rw [List.mem_append, Option.mem_toList, Option.mem_toList] at he hf
  have own : node.command = f.command := by
    rcases hf with hf | hf
    · exact command_of_constructed h (filtered f hf) node hnode
    · exact command_of_constructed h (grouped f hf) node hnode
  rw [own]
  rcases he with he | he <;> rcases hf with hf | hf
  · rw [Option.mem_unique he hf]
  · exact shared e he f hf
  · exact (shared f hf e he).symm
  · rw [Option.mem_unique he hf]

/-- A call that has failed makes nothing that was not there before. -/
theorem constructed_of_failed {cause : Error} (failed : (s.event c call).outcome = .error cause)
    {d : Condition} (constructed : (s.record c call).Constructed admits d) :
    s.Constructed admits d := by
  induction constructed with
  | @returned e d called given parts made ih =>
    rcases List.mem_append.mp called with called | last
    · exact .returned called given ih made
    · rw [List.mem_singleton.mp last, failed] at made
      cases made

theorem outcome_of_composes (composes : call.composes = true) (s : Session) (c : Command) :
    (call.owner c = none ∧ (s.event c call).Refused .empty) ∨
      ∃ d, call.owner c = some d.command ∧ d.members = call.parts ∧
        (s.event c call).outcome = (do
          Condition.requireCommand d.command call.parts
          return .condition d) := by
  have ran := s.event_ran c call
  rcases Call.run_of_composes composes s.workspace.operators c (s.event c call).before with
    ⟨unowned, cause, empty, failed⟩ | ⟨d, owned, members, -, made⟩
  · obtain ⟨failed, -⟩ := Prod.mk.inj (ran.symm.trans failed)
    refine .inl ⟨unowned, ?_⟩
    rcases empty with rfl | rfl
    · exact ⟨_, _, failed, rfl, rfl, rfl⟩
    · exact ⟨_, _, failed, rfl, rfl, rfl⟩
  · exact .inr ⟨d, owned, members, (Prod.mk.inj (ran.symm.trans made)).1⟩

/-- The first condition that is not of the command is named in the refusal. -/
theorem refused_of_foreign (composes : call.composes = true) {own : Command}
    {before behind : List Condition} {d : Condition} (owned : call.owner c = some own)
    (parts : call.parts = before ++ d :: behind) (all : ∀ e ∈ before, e.command = own)
    (foreign : d.command ≠ own) :
    (s.event c call).Refused (.ofList [("kind", .text d.kind.name)]) := by
  rcases outcome_of_composes composes s c with ⟨unowned, -⟩ | ⟨whole, same, -, outcome⟩
  · cases owned.symm.trans unowned
  · obtain rfl : own = whole.command := Option.some.inj (owned.symm.trans same)
    have failed := Condition.requireCommand_eq_error_iff.mpr
      ⟨before, d, behind, parts, all, foreign, rfl⟩
    rw [failed] at outcome
    exact ⟨_, _, outcome, rfl, rfl, rfl⟩

/-- Either there is a reason to refuse the call and it is refused, or a condition is made. -/
theorem refused_or_made (composes : call.composes = true) (s : Session) (c : Command) :
    (call.owner c = none ∨
        ∃ own, call.owner c = some own ∧ ∃ part ∈ call.parts, part.command ≠ own) ∧
      (∃ details, (s.event c call).Refused details) ∨
    ∃ d, (s.event c call).outcome = .ok (.condition d) ∧ call.owner c = some d.command ∧
      d.members = call.parts ∧ ∀ part ∈ call.parts, part.command = d.command := by
  rcases outcome_of_composes composes s c with ⟨unowned, refused⟩ | ⟨d, owned, members, outcome⟩
  · exact .inl ⟨.inl unowned, _, refused⟩
  · cases required : Condition.requireCommand d.command call.parts with
    | ok done =>
      rw [required] at outcome
      exact .inr ⟨d, outcome, owned, members, Condition.requireCommand_eq_ok_iff.mp required⟩
    | error cause =>
      obtain ⟨before, e, behind, parts, all, foreign, -⟩ :=
        Condition.requireCommand_eq_error_iff.mp required
      have mem : e ∈ call.parts := parts ▸ List.mem_append_right before List.mem_cons_self
      exact .inl ⟨.inr ⟨_, owned, e, mem, foreign⟩, _,
        refused_of_foreign composes owned parts all foreign⟩

theorem refused_iff (composes : call.composes = true) (s : Session) (c : Command) :
    (∃ details, (s.event c call).Refused details) ↔
      call.owner c = none ∨
        ∃ own, call.owner c = some own ∧ ∃ part ∈ call.parts, part.command ≠ own := by
  rcases refused_or_made composes s c with ⟨reason, refused⟩ | ⟨d, made, owned, -, all⟩
  · exact ⟨fun _ => reason, fun _ => refused⟩
  · constructor
    · rintro ⟨details, cause, -, failed, -⟩
      cases failed.symm.trans made
    · rintro (unowned | ⟨own, same, part, hpart, foreign⟩)
      · cases unowned.symm.trans owned
      · obtain rfl : own = d.command := Option.some.inj (same.symm.trans owned)
        exact absurd (all part hpart) foreign

/-- Whatever has come about in a session, everything in a condition is of the command of the
condition, and everything in the two conditions of a statement is of one command. Conditions are put
together unless one of them is not of the command of the whole, or there is no telling what command
that is. Then the call is refused, the first condition of another command is named by its kind, and
nothing has come about. -/
theorem command_of_nodes (actions : List Action) (admits : Command → Parameter → Prop) :
    (∀ d, (after actions).Constructed admits d → d.command ∈ (after actions).commands ∧
      ∀ node ∈ d.nodes, node.command = d.command) ∧
    (∀ q, (after actions).Stated admits q →
      ∀ e ∈ q.filter.toList ++ q.having.toList, ∀ f ∈ q.filter.toList ++ q.having.toList,
        ∀ node ∈ f.nodes, node.command = e.command) ∧
    ∀ (c : Command) (call : Call), call.composes = true →
      ((∃ details, ((after actions).event c call).Refused details) ↔
        call.owner c = none ∨
          ∃ own, call.owner c = some own ∧ ∃ part ∈ call.parts, part.command ≠ own) ∧
      (∀ own before d behind, call.owner c = some own → call.parts = before ++ d :: behind →
        (∀ e ∈ before, e.command = own) → d.command ≠ own →
          ((after actions).event c call).Refused (.ofList [("kind", .text d.kind.name)])) ∧
      (∀ details, ((after actions).event c call).Refused details →
        ∀ d, ((after actions).record c call).Constructed admits d →
          (after actions).Constructed admits d) ∧
      ((∀ details, ¬((after actions).event c call).Refused details) →
        ∃ d, ((after actions).event c call).outcome = .ok (.condition d) ∧
          call.owner c = some d.command ∧ d.members = call.parts) := by
  have consistent := consistent_after actions
  refine ⟨?conditions, ?statements, fun c call composes => ⟨refused_iff composes _ c, ?_, ?_, ?_⟩⟩
  case conditions =>
    intro d constructed
    exact ⟨mem_commands_of_constructed consistent constructed,
      command_of_constructed consistent constructed⟩
  case statements => exact fun q stated => command_of_stated consistent stated
  · intro own before d behind owned parts all foreign
    exact refused_of_foreign composes owned parts all foreign
  · rintro details ⟨cause, -, failed, -⟩ d constructed
    exact constructed_of_failed failed constructed
  · intro accepted
    rcases refused_or_made composes (after actions) c with
      ⟨-, details, refused⟩ | ⟨d, made, owned, members, -⟩
    · exact absurd refused (accepted details)
    · exact ⟨d, made, owned, members⟩

end Session

namespace Sample

/-! The conditions of the sample session put together by calls, and a command that has built none. -/

def oneOf : Condition := .group command .or (leaves.drop 1)

def joinOneOf : Call := .join .or (leaves.drop 1) false

def joinAll : Call := .join .or (leaves.take 1 ++ [.negation command oneOf]) false

def gathered : List Action :=
  actions ++ [.openCommand command.backend command.stem, .call 0 joinOneOf,
    .call 0 (.negate (some oneOf)), .call 0 joinAll]

def stranger : Command := { command with id := 1 }

variable {admits : Command → Parameter → Prop}

theorem constructed_call {call : Call} {d : Condition}
    (called : ∃ e ∈ (Session.after gathered).events, e.call = call ∧ e.outcome = .ok (.condition d))
    (ungiven : call.given = [])
    (parts : ∀ part ∈ call.parts, (Session.after gathered).Constructed admits part) :
    (Session.after gathered).Constructed admits d := by
  obtain ⟨e, he, rfl, made⟩ := called
  exact .returned he (fun p hp => absurd (ungiven ▸ hp) List.not_mem_nil) parts made

theorem constructed_leaves :
    ∀ d ∈ leaves, (Session.after gathered).Constructed admits d := by
  have alone {d : Condition} {p : Prop} (part : d ∈ []) : p := absurd part List.not_mem_nil
  rw [leaves, List.forall_mem_cons, List.forall_mem_cons, List.forall_mem_singleton]
  refine ⟨?_, ?_, ?_⟩
  · exact constructed_call ⟨_, List.mem_cons_self, rfl, rfl⟩ rfl fun _ => alone
  · exact constructed_call ⟨_, .tail _ List.mem_cons_self, rfl, rfl⟩ rfl fun _ => alone
  · exact constructed_call ⟨_, .tail _ (.tail _ List.mem_cons_self), rfl, rfl⟩ rfl fun _ => alone

theorem constructed_condition : (Session.after gathered).Constructed admits condition := by
  have leaf := @constructed_leaves admits
  have among : (Session.after gathered).Constructed admits oneOf :=
    constructed_call ⟨_, .tail _ (.tail _ (.tail _ List.mem_cons_self)), rfl, rfl⟩ rfl
      fun part hpart => leaf part (List.mem_of_mem_drop hpart)
  have negation : (Session.after gathered).Constructed admits (.negation command oneOf) :=
    constructed_call
      ⟨_, .tail _ (.tail _ (.tail _ (.tail _ List.mem_cons_self))), rfl, rfl⟩ rfl
      (List.forall_mem_singleton.mpr among)
  refine constructed_call
    ⟨_, .tail _ (.tail _ (.tail _ (.tail _ (.tail _ List.mem_cons_self)))), rfl, rfl⟩ rfl
    (List.forall_mem_append.mpr ⟨?_, List.forall_mem_singleton.mpr negation⟩)
  exact fun part hpart => leaf part (List.mem_of_mem_take hpart)

def filtered : Select where
  table := "people"
  columns := ["*"]
  filter := some condition
  groupBy := []
  having := leaves[1]?
  orderBy := []
  distinct := false

theorem stated_filtered : (Session.after gathered).Stated admits filtered := by
  have made : Select.make (some "people") ["*"] (some condition) [] leaves[1]? [] false =
      .ok filtered := rfl
  refine .made ?_ ?_ made
  · rintro _ ⟨⟩
    exact constructed_condition
  · exact fun e he => constructed_leaves e (List.mem_of_getElem? he)

end Sample

namespace Session

/-- A nested condition, a statement of it and a part of it, and a group that another command refuses
for the second of its members. -/
theorem command_of_nodes_gathered :
    (∀ node ∈ Sample.condition.nodes, node.command = Sample.condition.command) ∧
    (∀ e ∈ [Sample.condition, Sample.leaves[1]], ∀ f ∈ [Sample.condition, Sample.leaves[1]],
      ∀ node ∈ f.nodes, node.command = e.command) ∧
    ((after Sample.gathered).event Sample.stranger
      (.ofGroup .and [.group Sample.stranger .and [], Sample.condition, Sample.leaves[0]])).Refused
        (.ofList [("kind", .text "group")]) := by
  obtain ⟨conditions, statements, calls⟩ :=
    command_of_nodes Sample.gathered fun _ _ => True
  refine ⟨(conditions _ Sample.constructed_condition).2, statements _ Sample.stated_filtered, ?_⟩
  obtain ⟨-, names, -⟩ := calls Sample.stranger
    (.ofGroup .and [.group Sample.stranger .and [], Sample.condition, Sample.leaves[0]]) rfl
  exact names Sample.stranger [.group Sample.stranger .and []] Sample.condition [Sample.leaves[0]] rfl
    rfl (List.forall_mem_singleton.mpr rfl) (by decide)

end Session
end Criteria
